import Coflux.Server.TaskRemoval

namespace Coflux.Server
open FiniteMap StepMachine
open Function (update update_of_ne update_self)

def Job.gated : Job → Option String
  | .sessionExit daemon _ _ | .reportRead daemon _ _ | .converge daemon _ _ _ | .terminalNew daemon _ _ _ => some daemon.daemonId
  | _ => none

def Carried (gate : Option String) (before after : Tasks) : Prop :=
  ∀ taskId row, after.lookup taskId = some row → row.sessionId = none ∨ gate = some row.daemonId ∨
    ∃ old, before.lookup taskId = some old ∧ old.sessionId = row.sessionId ∧ old.accountId = row.accountId ∧
      old.daemonId = row.daemonId

section Rows
theorem Carried.refl (tasks : Tasks) : Carried gate tasks tasks := fun _ row found => .inr (.inr ⟨row,found,rfl,rfl,rfl⟩)

theorem Evolved.carried (evolved : Evolved before after) : Carried gate before after := by
  intro taskId row found
  obtain ⟨old,earlier,evolves⟩ := evolved _ _ found
  rcases evolves.session with same | gone
  · exact .inr (.inr ⟨old,earlier,same.symm,evolves.same.2.1.symm,evolves.same.2.2.symm⟩)
  · exact .inl gone

theorem run_carried (db : Database) {id : String} :
    Carried gate db.tasks (db.runTaskIfSession now id accountId daemonId sessionId).1.tasks := by
  unfold Database.runTaskIfSession
  rcases updateTaskWhere_cases _ with ⟨none,_⟩ | ⟨row,found,_,changed⟩
  · rw [none]
    exact .refl db.tasks
  · rw [changed]
    intro taskId new stored
    rcases insert_lookup stored with ⟨rfl,rfl⟩ | ⟨_,earlier⟩
    · exact .inr (.inr ⟨row,found,rfl,rfl,rfl⟩)
    · exact .inr (.inr ⟨new,earlier,rfl,rfl,rfl⟩)

theorem exit_evolved (db : Database) {id : String} : Evolved db.tasks (db.updateTaskWhere id test fun task =>
      {task with status := .exited,sessionId := none,exitCode := exitCode,updatedAt := now}).1.tasks :=
  updateTaskWhere_evolved fun row _ => exited_evolves row

theorem exited_off (db : Database) {entry : Binding}
    (stored : (db.exitTaskIfSession now entry.taskId daemon.accountId daemon.daemonId entry.sessionId exitCode).1.tasks.lookup
      entry.taskId = some row) (owned : ofDaemon daemon row = true) : row.sessionId ≠ some entry.sessionId := by
  unfold Database.exitTaskIfSession at stored
  rcases updateTaskWhere_cases _ with ⟨none,fails⟩ | ⟨_,_,_,changed⟩
  · rw [none] at stored
    intro on
    have test := fails _ stored
    unfold ofDaemon at owned
    unfold Database.sameSession at test
    simp_all
  · rw [changed,AList.lookup_insert] at stored
    cases stored
    nofun

theorem Creates.carried (creates : Creates before after taskId sessionId result)
    (owned : ∀ task, result = some task → sessionId = none ∨ gate = some task.daemonId) : Carried gate before after := by
  cases result with
  | none =>
    cases creates
    exact .refl before
  | some task =>
    intro other row stored
    rw [creates.adds.2] at stored
    rcases insert_lookup stored with ⟨rfl,rfl⟩ | ⟨_,earlier⟩
    · rcases owned _ rfl with none | held
      · exact .inl (creates.session.trans none)
      · exact .inr (.inl held)
    · exact .inr (.inr ⟨row,earlier,rfl,rfl,rfl⟩)

end Rows

theorem usable_device (found : usableWorkspace db workspaceId accountId daemonId = some workspace) :
    workspace.daemonId = daemonId := by
  unfold usableWorkspace at found
  split at found
  · rename_i stored
    have owned := (Option.filter_eq_some_iff.mp stored).2
    simp only [Bool.and_eq_true,decide_eq_true_eq] at owned
    split at found
    · cases found
      exact owned.2
    · split at found
      · cases found
        exact owned.2
      · cases found
  · cases found

theorem terminalNewIn_device
    (returned : (terminalNewIn db now limit daemon origin workspaceId new).2 = some task) : task.daemonId = daemon.daemonId := by
  unfold terminalNewIn at returned
  split at returned
  · rename_i usable
    split at returned
    · cases returned
    · split at returned
      · cases returned
        exact usable_device usable
      · cases returned
  · cases returned

theorem converge_carried (named : Named db.tasks)
    (ran : converge db now daemonId accountId report payload = .ok (after,effect)) :
    Carried (some daemonId) db.tasks after.tasks := by
  rcases converge_rows named ran with ⟨_,unchanged⟩ | ⟨_,_,_,reported,_,device,_⟩
  · rw [unchanged]
    exact .refl db.tasks
  · rcases reported with ⟨evolved,_,_⟩ | ⟨entry,_,binds⟩
    · exact evolved.carried
    · intro taskId row stored
      by_cases own : taskId = entry.taskId
      · subst own
        cases Option.some.inj (binds.stored.symm.trans stored)
        obtain ⟨_,_,_,_,owned⟩ := binds.origin
        exact .inr (.inl (congrArg _ (device.symm.trans owned.symm)))
      · exact .inr (.inr ⟨row,(binds.others _ own).symm.trans stored,rfl,rfl,rfl⟩)

theorem job_carried {limit : Nat} (named : Named db.tasks) {job : Job} :
    Carried job.gated db.tasks (executeJob limit now db job).1.tasks := by
  have same : Carried job.gated db.tasks db.tasks := .refl db.tasks
  cases job with
  | liveRun | aliveRun | sessionStarted => exact run_carried db
  | sessionExit | absentRun => exact (exit_evolved db).carried
  | exitRun => exact (finishExit_rows named _).1.carried
  | converge daemon report payload taskId =>
    dsimp only [executeJob]
    split
    · rename_i ran
      exact converge_carried named ran
    · exact same
  | finalizeProject => exact (finalizeDeletingProject_rows db _ _ _ _).1.carried
  | createTask => exact Creates.carried createTaskIn_creates fun _ _ => .inl rfl
  | createTerminal => exact Creates.carried createTerminalAt_creates fun _ _ => .inl rfl
  | openTerminal => exact Creates.carried openTerminalIn_creates fun _ _ => .inl rfl
  | terminalNew =>
    refine Creates.carried terminalNewIn_creates ?_
    intro task returned
    exact .inr (congrArg _ (terminalNewIn_device returned).symm)
  | undoNew daemon new announce => exact (removeIdle_rows db _ new).1.carried
  | locate => exact (locate_rows named _).1.carried
  | forget => exact (forget_rows named).1.carried
  | removeTask => exact (removeTaskRecord_rows db _ _ _ _).1.carried
  | removeDirWorkspace => exact (removeDirWorkspace_rows db _ _ _ _).1.carried
  | removeDevice => exact removeDevice_rows.1.carried
  | discard => exact erase_evolved.carried
  | nextEntry | liveRead | liveRan | exitRan | absentRan | nextAlive | aliveRead | reportRead | convergeFail | reportPush | opened
  | locatePush | closeSessions | register | registerRestore | registerProjects | registerTasks | closeConnection
  | revokeDevice => exact same

def Stage.inside : Stage → Bool
  | .waiting _ => false
  | _ => true

def HubState.stages (s : HubState) (n : Nat) : Option (Option String × Stage) :=
  (s.calls.lookup n).map fun call => (call.gate,call.stage)

structure Gated (tasks : Tasks) (gates : Table String Nat) (stages : Nat → Option (Option String × Stage)) : Prop where
  named : Named tasks
  inside : ∀ n gate stage, stages n = some (some gate,stage) → stage.inside = true → gates.lookup gate = some n
  gated : ∀ n gate stage, stages n = some (gate,stage) → ∀ held, stage.job.gated = some held → gate = some held
  off : ∀ n gate daemon entry exitCode result, stages n = some (gate,.answered (.sessionExit daemon entry exitCode) result) →
    ∀ row, tasks.lookup entry.taskId = some row → ofDaemon daemon row = true → row.sessionId ≠ some entry.sessionId

def HubState.Gates (s : HubState) : Prop := Gated s.db.tasks s.gates s.stages

structure SameGates (s next : HubState) : Prop where
  db : next.db = s.db
  handled : next.handled = s.handled
  gates : next.gates = s.gates
  stages : next.stages = s.stages

theorem SameGates.refl (s : HubState) : SameGates s s := ⟨rfl,rfl,rfl,rfl⟩

theorem SameGates.trans (one : SameGates a b) (two : SameGates b c) : SameGates a c :=
  ⟨two.db.trans one.db,two.handled.trans one.handled,two.gates.trans one.gates,two.stages.trans one.stages⟩

inductive Proceeds (s : HubState) (n : Nat) (call : Call) : HubState → Prop
  | ends (same : SameGates s next) (new : Call) (gate : new.gate = call.gate) : Proceeds s n call (next.finish n new)
  | goes (same : SameGates s next) (new : Call) (gate : new.gate = call.gate) (inside : new.stage.inside = true)
      (gated : new.stage.job.gated = none ∨ new.stage.job.gated = call.stage.job.gated)
      (sent : ∀ daemon entry exitCode result, new.stage ≠ .answered (.sessionExit daemon entry exitCode) result) :
      Proceeds s n call (next.becomes n new)
  | waits (same : SameGates s next) (new : Call) (inside : new.stage.inside = false) (gated : new.stage.job.gated = none) :
      Proceeds s n call (next.becomes n new)
  | leaves (same : SameGates s next) (new : Call) (gate : new.gate = call.gate) (stage : Stage)
      (gated : stage.job.gated = none) : Proceeds s n call (next.leaves n new stage)

namespace HubState
variable {s next : HubState}

theorem stages_put : (s.becomes n new).stages = update s.stages n (some (new.gate,new.stage)) := by
  funext m
  unfold stages becomes
  by_cases same : m = n
  · subst same
    rw [update_self]
    exact congrArg (Option.map _) (AList.lookup_insert s.calls)
  · rw [update_of_ne same]
    exact congrArg (Option.map _) (AList.lookup_insert_ne same)

theorem stages_finish : (s.finish n new).stages = update s.stages n none := by
  funext m
  unfold stages finish
  by_cases same : m = n
  · subst same
    rw [update_self]
    exact congrArg (Option.map _) (AList.lookup_erase m s.calls)
  · rw [update_of_ne same]
    exact congrArg (Option.map _) (AList.lookup_erase_ne same)

theorem stages_cancel (change : Call → Call) (same : ∀ call, (change call).gate = call.gate ∧ (change call).stage = call.stage)
    (m : Nat) : ((mapValues (fun _ call => change call) s.calls).lookup m).map (fun call => (call.gate,call.stage)) =
      s.stages m := by
  rw [lookup_mapValues,Option.map_map]
  unfold stages
  congr 1
  funext call
  exact Prod.ext (same call).1 (same call).2

theorem install_same : SameGates s (s.installSessionRuntime sessionId taskId accountId daemonId) := by
  unfold installSessionRuntime
  split
  · exact .refl s
  · exact ⟨rfl,rfl,rfl,rfl⟩

theorem emitAll_same : SameGates s (s.emitTasks tasks) := by
  unfold emitTasks
  induction tasks generalizing s with
  | nil => exact .refl s
  | cons task rest ih => exact SameGates.trans (b := s.emitTask task) ⟨rfl,rfl,rfl,rfl⟩ ih

theorem retire_same (accountId daemonId : String) : SameGates s (s.retire ids accountId daemonId) :=
  ⟨rfl,rfl,rfl,funext (stages_cancel (fun call => {call with task := cancel _ _}) fun _ => ⟨rfl,rfl⟩)⟩

theorem device_same : SameGates s (s.cancelDeviceEffects daemonId) :=
  ⟨rfl,rfl,rfl,funext (stages_cancel (fun call => {call with device := cancel [daemonId] call.device}) fun _ => ⟨rfl,rfl⟩)⟩

theorem dropAll_same {entries : List Binding} : SameGates s (entries.foldl (fun s entry =>
    if s.sessionHasIdentity entry.sessionId entry.taskId accountId daemonId then s.dropSession entry.sessionId else s) s) := by
  induction entries generalizing s with
  | nil => exact .refl s
  | cons entry rest ih =>
    rw [List.foldl_cons]
    split
    · exact SameGates.trans (b := s.dropSession entry.sessionId) ⟨rfl,rfl,rfl,rfl⟩ ih
    · exact ih

theorem gate_of_stages (same : next.stages = s.stages) (found : s.calls.lookup n = some call) :
    ((next.calls.lookup n).getD call).gate = call.gate ∧ ((next.calls.lookup n).getD call).stage = call.stage := by
  have equal := congrFun same n
  unfold stages at equal
  rw [found] at equal
  obtain ⟨_,there,pair⟩ := Option.map_eq_some_iff.mp equal
  rw [there]
  exact ⟨congrArg Prod.fst pair,congrArg Prod.snd pair⟩

theorem reportInstall_onward (same : SameGates s next) (gate : new.gate = call.gate)
    : Proceeds s n call (next.reportInstall n new effect taskId) := by
  unfold reportInstall
  split
  · split
    · exact .ends same new gate
    · refine .ends ?_ new gate
      exact (same.trans (install_same)).trans ⟨rfl,rfl,rfl,rfl⟩
  · exact .ends same new gate

theorem reportTail_onward (same : SameGates s next) (gate : new.gate = call.gate)
    : Proceeds s n call (next.reportTail n new effect taskId) := by
  unfold reportTail
  split
  · exact .goes same _ gate rfl (.inl rfl) nofun
  · exact reportInstall_onward same gate

theorem converged_onward (found : s.calls.lookup n = some call)
    : Proceeds s n call (s.converged n call daemon effect taskId) := by
  unfold converged
  obtain ⟨retired,same,gates⟩ : ∃ retired, (if (effect.removedTaskIds.getD []).isEmpty then s
      else s.retire (effect.removedTaskIds.getD []) effect.accountId effect.daemonId) = retired ∧ SameGates s retired := by
    split
    · exact ⟨_,rfl,.refl s⟩
    · exact ⟨_,rfl,retire_same _ _⟩
  dsimp only
  rw [same]
  have gate := (gate_of_stages gates.stages found).1
  split
  · exact .ends gates call rfl
  · split
    · refine .goes ?_ _ gate rfl (.inl rfl) ?_
      · exact gates.trans ⟨rfl,rfl,rfl,rfl⟩
      · nofun
    · refine reportTail_onward ?_ gate
      exact gates.trans ⟨rfl,rfl,rfl,rfl⟩

theorem taskRemoved_onward :
    Proceeds s n call (s.taskRemoved n call accountId daemonId ids) := by
  refine .ends ?_ call rfl
  exact (retire_same accountId daemonId).trans ⟨rfl,rfl,rfl,rfl⟩

theorem registerNext_onward (same : SameGates s next) (gate : new.gate = call.gate) :
    Proceeds s n call (next.registerNext n new daemon ids) := by
  unfold registerNext
  split
  · exact .goes same _ gate rfl (.inl rfl) nofun
  · exact .goes same _ gate rfl (.inl rfl) nofun

theorem finalized_onward (found : s.calls.lookup n = some call)
    : Proceeds s n call (s.finalized n call accountId daemonId after removedIds) := by
  have goes : ∀ told : HubState, SameGates s told →
      Proceeds s n call (told.finalized n call accountId daemonId after none) := by
    intro told same
    have gate := (gate_of_stages same.stages found).1
    unfold finalized
    dsimp only
    split
    · exact reportInstall_onward same gate
    · split
      · exact registerNext_onward same gate
      · exact .ends same _ gate
    · exact .ends same _ gate
  cases removedIds with
  | none => exact goes s (.refl s)
  | some ids => exact goes _ ((retire_same accountId daemonId).trans ⟨rfl,rfl,rfl,rfl⟩)

theorem resume_onward (found : s.calls.lookup n = some call) {job : Job} (result : job.Result)
    (stage : call.stage = .answered job result) (other : ∀ daemon entry exitCode, job ≠ .sessionExit daemon entry exitCode) :
    Proceeds s n call (s.resume n call choice job result) := by
  have done : Proceeds s n call (s.finish n call) := .ends (.refl s) call rfl
  have goes : ∀ {next : HubState} {stage : Stage}, SameGates s next → stage.inside = true → stage.job.gated = none →
      Proceeds s n call (next.becomes n {call with stage := stage}) := by
    intro next stage same inside gated
    refine .goes same _ rfl inside (.inl gated) ?_
    intro daemon entry exitCode result equal
    cases gated.symm.trans (congrArg (fun stage : Stage => stage.job.gated) equal)
  cases job with
  | sessionExit daemon entry exitCode => exact absurd rfl (other _ entry _)
  | converge daemon report payload taskId =>
    cases result with
    | error failure =>
      cases failure with
      | convergence text => exact goes (.refl s) rfl rfl
      | database => exact done
    | ok effect =>
      cases effect with
      | none => exact done
      | some effect => exact converged_onward found
  | reportPush effect taskId => exact reportTail_onward (.refl s) rfl
  | finalizeProject projectId accountId daemonId after => exact finalized_onward found
  | registerProjects daemon => exact registerNext_onward (.refl s) rfl
  | locatePush | forget => exact .ends emitAll_same call rfl
  | convergeFail | discard | closeConnection => exact done
  | reportRead daemon report payload =>
    dsimp only [resume,reportRead]
    split
    · exact done
    · exact .goes (.refl s) _ rfl rfl (.inr (by rw [stage]; rfl)) nofun
  | undoNew daemon new announce =>
    dsimp only [resume,newUndone]
    split
    · refine .ends ?_ call rfl
      exact ⟨rfl,rfl,rfl,(retire_same "" "").stages⟩
    · exact done
  | locate daemon originId originSession value workspaceId =>
    dsimp only [resume,located]
    split
    · exact goes (.refl s) rfl rfl
    · exact .ends emitAll_same call rfl
    · exact done
  | removeTask | removeDirWorkspace =>
    dsimp only [resume]
    split
    · exact taskRemoved_onward
    · exact done
  | closeSessions accountId daemonId reading todo listed =>
    dsimp only [resume,sessionsRead]
    split
    · exact goes (.refl s) rfl rfl
    · exact .ends dropAll_same call rfl
  | removeDevice daemonId accountId =>
    dsimp only [resume,deviceRemoved]
    split
    · exact done
    · refine goes ?_ rfl rfl
      exact device_same.trans ⟨rfl,rfl,rfl,(retire_same "" "").stages⟩
  | nextEntry | liveRead | liveRun | liveRan | exitRun | exitRan | absentRun | absentRan | sessionStarted | nextAlive | aliveRead
  | aliveRun | createTask | createTerminal | openTerminal | terminalNew | register | registerRestore | registerTasks
  | opened | revokeDevice =>
    dsimp only [resume,beginEntry,liveRead,liveRan,exitRan,absentRan,sessionStarted,aliveRead,aliveRun,taskCreated,terminalOpened,
      terminalNew,registered,deviceRevoked,install,installSessionRuntime,nextEntry,nextAlive]
    repeat' split
    all_goals first
      | (refine .ends ?_ call ?_ <;> first | rfl | exact ⟨rfl,rfl,rfl,rfl⟩)
      | (refine .goes ?_ _ ?_ ?_ (.inl ?_) ?_ <;> first | rfl | exact ⟨rfl,rfl,rfl,rfl⟩ | (intro _ _ _ _ equal; cases equal))
      | (refine .waits ?_ _ ?_ ?_ <;> first | rfl | exact ⟨rfl,rfl,rfl,rfl⟩)
      | (refine .leaves ?_ _ ?_ _ ?_ <;> first | rfl | exact ⟨rfl,rfl,rfl,rfl⟩)

theorem enter_onward (stage : call.stage = .waiting job) : Proceeds s n call (s.enter n call job) := by
  have sent : Proceeds s n call (s.becomes n {call with stage := .sent job}) := by
    refine .goes (.refl s) _ rfl rfl (.inr (by rw [stage]; rfl)) ?_
    intro daemon entry exitCode result equal
    cases equal
  have done : Proceeds s n call (s.finish n call) := .ends (.refl s) call rfl
  cases job with
  | aliveRead daemon alive entry =>
    dsimp only [enter]
    split
    · split
      · unfold nextAlive
        exact .leaves (.refl s) _ (by rfl) _ (by rfl)
      · exact sent
    · exact done
  | closeConnection daemon =>
    dsimp only [enter]
    split
    · have same : SameGates s {s with daemons := s.daemons.erase daemon.daemonId} := ⟨rfl,rfl,rfl,rfl⟩
      exact .goes same {call with stage := .sent (.closeConnection daemon)} rfl rfl (.inl rfl) nofun
    · exact done
  | register daemon =>
    dsimp only [enter]
    split
    · exact done
    · exact sent
  | liveRun | exitRun | absentRun | sessionStarted | sessionExit | reportRead | terminalNew =>
    dsimp only [enter]
    split
    · exact sent
    · exact done
  | _ => exact sent

end HubState

-- The call of one handler is replaced; the others keep the gates they are inside of.
open HubState (release stages_put)

theorem Gated.moves (valid : Gated tasks gates stages)
    (others : ∀ gate m, m ≠ n → gates.lookup gate = some m → after.lookup gate = some m)
    (entry : Option (Option String × Stage))
    (inside : ∀ gate stage, entry = some (some gate,stage) → stage.inside = true → after.lookup gate = some n)
    (gated : ∀ gate stage, entry = some (gate,stage) → ∀ held, stage.job.gated = some held → gate = some held)
    (sent : ∀ gate daemon binding exitCode result, entry ≠ some (gate,.answered (.sessionExit daemon binding exitCode) result)) :
    Gated tasks after (update stages n entry) where
  named := valid.named
  inside m gate stage there within := by
    by_cases same : m = n
    · subst same
      rw [update_self] at there
      exact inside _ stage there within
    · rw [update_of_ne same] at there
      exact others _ m same (valid.inside m _ stage there within)
  gated m gate stage there := by
    by_cases same : m = n
    · subst same
      rw [update_self] at there
      exact gated _ stage there
    · rw [update_of_ne same] at there
      exact valid.gated m _ stage there
  off m gate daemon binding exitCode result there := by
    by_cases same : m = n
    · subst same
      rw [update_self] at there
      exact absurd there (sent _ _ _ _ _)
    · rw [update_of_ne same] at there
      exact valid.off m _ _ _ _ _ there

section Handlers
variable {s : HubState} {call : Call}

theorem release_same : (s.release call).db = s.db ∧ (s.release call).handled = s.handled := by
  unfold release
  split
  · exact ⟨rfl,rfl⟩
  · exact ⟨rfl,rfl⟩

theorem release_others (holds : ∀ gate, call.gate = some gate → s.gates.lookup gate = some n) (gate : String) (m : Nat)
    (other : m ≠ n) (held : s.gates.lookup gate = some m) : (s.release call).gates.lookup gate = some m := by
  unfold release
  split
  · rename_i own mine
    have apart : gate ≠ own := by
      rintro rfl
      exact other (Option.some.inj (held.symm.trans (holds _ mine)))
    exact (AList.lookup_erase_ne apart).trans held
  · exact held

section
variable (valid : s.Gates) (here : s.stages n = some (call.gate,call.stage))
include valid here

theorem onward_gates (holds : ∀ gate, call.gate = some gate → s.gates.lookup gate = some n) (onward : Proceeds s n call next) :
    next.Gates ∧ next.handled = s.handled := by
  have kept : ∀ {told : HubState}, SameGates s told → told.Gates := by
    intro told same
    unfold HubState.Gates
    rw [same.db,same.gates,same.stages]
    exact valid
  have holding : ∀ {told : HubState} {new : Call}, SameGates s told → new.gate = call.gate →
      ∀ gate, new.gate = some gate → told.gates.lookup gate = some n := by
    intro told new same own gate mine
    rw [same.gates]
    exact holds _ (own.symm.trans mine)
  cases onward with
  | @ends told same new own =>
    refine ⟨?_,release_same.2.trans same.handled⟩
    unfold HubState.Gates
    rw [HubState.stages_finish,show (told.finish n new).db = told.db from release_same.1]
    refine (kept same).moves (release_others (holding same own)) none ?_ ?_ ?_
    · intro gate stage there
      cases there
    · intro gate stage there
      cases there
    · intro gate daemon binding exitCode result there
      cases there
  | @goes told same new own within gated sent =>
    refine ⟨?_,same.handled⟩
    unfold HubState.Gates
    rw [stages_put]
    refine (kept same).moves (fun _ _ _ held => held) _ ?_ ?_ ?_
    · rintro gate stage there -
      exact holding same own _ (congrArg Prod.fst (Option.some.inj there))
    · rintro gate stage there held gives
      cases there
      rcases gated with none | equal
      · cases none.symm.trans gives
      · exact own.trans (valid.gated n _ _ here held (equal.symm.trans gives))
    · rintro gate daemon binding exitCode result there
      exact sent _ _ _ _ (congrArg Prod.snd (Option.some.inj there))
  | @waits told same new outside gated =>
    refine ⟨?_,same.handled⟩
    unfold HubState.Gates
    rw [stages_put]
    refine (kept same).moves (fun _ _ _ held => held) _ ?_ ?_ ?_
    · intro gate stage there within
      obtain ⟨_,rfl⟩ := Prod.mk.inj (Option.some.inj there)
      cases outside.symm.trans within
    · intro gate stage there held gives
      obtain ⟨_,rfl⟩ := Prod.mk.inj (Option.some.inj there)
      cases gated.symm.trans gives
    · intro gate daemon binding exitCode result there
      rw [(Prod.mk.inj (Option.some.inj there)).2] at outside
      cases outside
  | @leaves told same new own stage gated =>
    refine ⟨?_,release_same.2.trans same.handled⟩
    have same_stages : (told.release new).stages = told.stages := by
      unfold release
      split
      · rfl
      · rfl
    unfold HubState.Gates HubState.leaves
    rw [stages_put,same_stages]
    show Gated (told.release new).db.tasks _ _
    rw [release_same.1]
    refine (kept same).moves (release_others (holding same own)) _ ?_ ?_ ?_
    · intro gate stage there
      cases there
    · intro gate stage there held gives
      cases there
      cases gated.symm.trans gives
    · intro gate daemon binding exitCode result there
      have equal : stage = .answered (.sessionExit daemon binding exitCode) result := (Prod.mk.inj (Option.some.inj there)).2
      rw [equal] at gated
      cases gated

theorem holds_of_inside (inside : call.stage.inside = true)
    (gate : String) (own : call.gate = some gate) : s.gates.lookup gate = some n :=
  valid.inside n gate call.stage (by rw [here,own]) inside

end

theorem start_gates (valid : s.Gates) (outside : call.gate = none ∨ call.stage.inside = false)
    (gated : call.stage.job.gated = none ∨ call.stage.job.gated = call.gate)
    (sent : ∀ daemon entry exitCode result, call.stage ≠ .answered (.sessionExit daemon entry exitCode) result) :
    (s.start call).Gates := by
  unfold HubState.Gates
  rw [show (s.start call).stages = _ from stages_put]
  refine valid.moves (fun _ _ _ held => held) _ ?_ ?_ ?_
  · intro gate stage there within
    obtain ⟨own,rfl⟩ := Prod.mk.inj (Option.some.inj there)
    rcases outside with none | outside
    · cases none.symm.trans own
    · cases outside.symm.trans within
  · intro gate stage there held gives
    obtain ⟨rfl,rfl⟩ := Prod.mk.inj (Option.some.inj there)
    rcases gated with none | own
    · cases none.symm.trans gives
    · exact own.symm.trans gives
  · intro gate daemon entry exitCode result there
    exact sent _ entry _ _ (Prod.mk.inj (Option.some.inj there)).2

-- A statement of another handler would need the gate the exit's handler is inside of.
theorem query_gates (valid : s.Gates) (here : s.stages n = some (call.gate,.sent job)) :
    Gated (executeJob limit s.now s.db job).1.tasks s.gates
      (update s.stages n (some (call.gate,.answered job (executeJob limit s.now s.db job).2))) := by
  have gated := valid.gated n _ _ here
  constructor
  case named => exact (query_rows _ _ _ valid.named _).named
  case inside =>
    intro m gate stage there within
    by_cases same : m = n
    · subst same
      rw [update_self] at there
      obtain ⟨own,rfl⟩ := Prod.mk.inj (Option.some.inj there)
      exact valid.inside m _ (.sent job) (by rw [here,own]) rfl
    · rw [update_of_ne same] at there
      exact valid.inside m _ stage there within
  case gated =>
    intro m gate stage there held gives
    by_cases same : m = n
    · subst same
      rw [update_self] at there
      obtain ⟨rfl,rfl⟩ := Prod.mk.inj (Option.some.inj there)
      exact gated held gives
    · rw [update_of_ne same] at there
      exact valid.gated m _ stage there held gives
  case off =>
    intro m gate daemon entry exitCode result there row stored owned
    by_cases same : m = n
    · subst same
      rw [update_self] at there
      obtain ⟨_,equal⟩ := Prod.mk.inj (Option.some.inj there)
      cases equal
      exact exited_off _ stored owned
    · rw [update_of_ne same] at there
      intro on
      rcases job_carried valid.named entry.taskId row stored with none | held | ⟨old,earlier,session,account,device⟩
      · cases none.symm.trans on
      · have device : row.daemonId = daemon.daemonId := by
          unfold ofDaemon at owned
          simp only [Bool.and_eq_true,decide_eq_true_eq] at owned
          exact owned.2
        rw [device] at held
        have mine := valid.inside n _ (.sent job) (by rw [here,gated _ held]) rfl
        have other := valid.gated m _ _ there _ rfl
        have its := valid.inside m _ _ (by rw [there,other]) rfl
        exact same (Option.some.inj (its.symm.trans mine))
      · refine valid.off m _ _ entry _ _ there _ earlier ?_ (session.trans on)
        unfold ofDaemon at owned ⊢
        rw [account,device]
        exact owned

end Handlers

def HubAction.exits : HubAction → Option (Daemon × String)
  | .message daemon (.sessionExit sessionId _) => some (daemon,sessionId)
  | _ => none

-- An exit arrives for a session that is mapped, or that no task of the device is running on.
def ExitKnown (s : HubState) (action : HubAction) : Prop :=
  ∀ exit ∈ action.exits, (s.sessions.lookup exit.2).any (fun runtime =>
      runtime.daemonId = exit.1.daemonId && runtime.accountId = exit.1.accountId) = true ∨
    ((entries s.db.tasks).any fun entry => isRunningOn exit.1 exit.2 entry.2) = false

instance : Decidable (ExitKnown s action) :=
  inferInstanceAs (Decidable (∀ exit ∈ action.exits, _ ∨ _))

-- The tasks whose sessions' exits have been dealt with are not running on them.
def ExitsTold (s : HubState) : Prop := ∀ exit ∈ s.handled, exit.running = false

def Handles (s next : HubState) (known : Prop) : Prop :=
  (next.handled = s.handled ∧ known) ∨ ∃ exit, next.handled = exit :: s.handled ∧ (exit.running = false ↔ known)

theorem handleMessage_gates (valid : s.Gates) (taken : s.handleMessage daemon message = some next) :
    next.Gates ∧ Handles s next (ExitKnown s (.message daemon message)) := by
  cases message with
  | sessionExit sessionId exitCode =>
    dsimp only [HubState.handleMessage] at taken
    split at taken
    · rename_i unmapped
      cases taken
      refine ⟨valid,.inr ⟨_,rfl,?_⟩⟩
      have absent : (s.sessions.lookup sessionId).any (fun runtime =>
          runtime.daemonId = daemon.daemonId && runtime.accountId = daemon.accountId) ≠ true := by
        intro mapped
        cases found : s.sessions.lookup sessionId with
        | none =>
          rw [found] at mapped
          cases mapped
        | some runtime =>
          rw [found] at mapped unmapped
          simp_all [Option.filter_some]
      constructor
      · rintro none exit ⟨⟩
        exact .inr none
      · intro known
        exact (known _ rfl).resolve_left absent
    · rename_i mapped
      cases taken
      obtain ⟨found,passes⟩ := Option.filter_eq_some_iff.mp mapped
      refine ⟨start_gates valid (.inr rfl) (.inr rfl) nofun,.inl ⟨rfl,?_⟩⟩
      rintro exit ⟨⟩
      exact .inl (by rw [found]; exact passes)
  | catalog sessions exits =>
    dsimp only [HubState.handleMessage] at taken
    split at taken
    · cases taken
      exact ⟨valid,.inl ⟨rfl,nofun⟩⟩
    · cases taken
      exact ⟨start_gates valid (.inl rfl) (.inl rfl) nofun,.inl ⟨rfl,nofun⟩⟩
  | report | terminalNew =>
    cases taken
    exact ⟨start_gates valid (.inr rfl) (.inr rfl) nofun,.inl ⟨rfl,nofun⟩⟩
  | sessionStarted =>
    cases taken
    exact ⟨start_gates valid (.inr rfl) (.inl rfl) nofun,.inl ⟨rfl,nofun⟩⟩
  | resync | locate | forget =>
    cases taken
    exact ⟨start_gates valid (.inl rfl) (.inl rfl) nofun,.inl ⟨rfl,nofun⟩⟩

theorem sessionExit_gates (valid : s.Gates) (here : s.stages n = some (call.gate,call.stage))
    (holds : ∀ gate, call.gate = some gate → s.gates.lookup gate = some n)
    (stage : call.stage = .answered (.sessionExit daemon entry exitCode) result) {known : Prop} (holding : known) :
    (s.sessionExit n call daemon entry result).Gates ∧ Handles s (s.sessionExit n call daemon entry result) known := by
  have still : (s.db.tasks.lookup entry.taskId).any (isRunningOn daemon entry.sessionId) = false := by
    cases stored : s.db.tasks.lookup entry.taskId with
    | none => rfl
    | some row =>
      refine Bool.eq_false_iff.mpr fun running => ?_
      unfold isRunningOn at running
      simp only [Option.any_some,Bool.and_eq_true,decide_eq_true_eq] at running
      exact valid.off n _ _ entry _ _ (by rw [here,stage]) _ stored running.1.1 running.2
  have told : ∀ {next : HubState}, SameGates (s.handleExit entry.sessionId false) next →
      (next.finish n call).Gates ∧ Handles s (next.finish n call) known := by
    intro next same
    have handling : (s.handleExit entry.sessionId false).Gates := valid
    obtain ⟨after,handled⟩ := onward_gates handling here holds (.ends same call rfl)
    exact ⟨after,.inr ⟨_,handled,iff_of_true rfl holding⟩⟩
  unfold HubState.sessionExit
  dsimp only
  rw [still]
  split
  · obtain ⟨after,handled⟩ := onward_gates valid here holds (.ends (.refl s) call rfl)
    exact ⟨after,.inl ⟨handled,holding⟩⟩
  · split
    · exact told (.refl _)
    · refine told ?_
      exact ⟨rfl,rfl,rfl,rfl⟩

theorem gates_step (valid : s.Gates)
    (step : hubStep limit s action = some next) : next.Gates ∧ Handles s next (ExitKnown s action) := by
  have quiet : ∀ {told : HubState}, action.exits = none → told.Gates ∧ told.handled = s.handled →
      told.Gates ∧ Handles s told (ExitKnown s action) := by
    intro told none both
    refine ⟨both.1,.inl ⟨both.2,?_⟩⟩
    intro exit mem
    cases none.symm.trans mem
  cases action with
  | message daemon message =>
    dsimp only [hubStep] at step
    split at step
    · exact handleMessage_gates valid step
    · cases step
  | acquire n =>
    dsimp only [hubStep] at step
    split at step
    · rename_i call found
      split at step
      · rename_i job gate waiting own
        split at step
        · cases step
        · rename_i free
          cases step
          have here : s.stages n = some (call.gate,call.stage) := congrArg (Option.map _) found
          have taken : ({s with gates := s.gates.insert gate n} : HubState).Gates := by
            refine {valid with inside := ?_}
            intro m other stage there within
            have held := valid.inside m other stage there within
            have apart : other ≠ gate := by
              rintro rfl
              exact free (by rw [held]; rfl)
            exact (AList.lookup_insert_ne apart).trans held
          have holds : ∀ other, call.gate = some other → (s.gates.insert gate n).lookup other = some n := by
            intro other mine
            cases own.symm.trans mine
            exact AList.lookup_insert s.gates
          have entered := onward_gates taken here holds (HubState.enter_onward waiting)
          exact quiet rfl entered
      · cases step
    · cases step
  | query n =>
    dsimp only [hubStep] at step
    split at step
    · rename_i call found
      split at step
      · rename_i job sent
        split at step
        · cases step
        · cases step
          refine ⟨?_,.inl ⟨rfl,nofun⟩⟩
          unfold HubState.Gates
          rw [stages_put]
          have here : s.stages n = some (call.gate,.sent job) := by
            rw [← sent]
            exact congrArg (Option.map _) found
          exact query_gates valid here
      · cases step
    · cases step
  | fail n =>
    dsimp only [hubStep] at step
    split at step
    · rename_i call found
      split at step
      · rename_i job sent
        cases step
        have here : s.stages n = some (call.gate,call.stage) := congrArg (Option.map _) found
        have holds := holds_of_inside valid here (by rw [sent]; rfl)
        exact quiet rfl (onward_gates valid here holds (.ends (.refl s) call rfl))
      · cases step
    · cases step
  | resume n choice =>
    dsimp only [hubStep] at step
    split at step
    · rename_i call found
      split at step
      · rename_i job result answered
        cases step
        have here : s.stages n = some (call.gate,call.stage) := congrArg (Option.map _) found
        have holds := holds_of_inside valid here (by rw [answered]; rfl)
        by_cases exits : ∃ daemon entry exitCode, job = .sessionExit daemon entry exitCode
        · obtain ⟨daemon,entry,exitCode,rfl⟩ := exits
          exact sessionExit_gates valid here holds answered nofun
        · refine quiet rfl (onward_gates valid here holds (HubState.resume_onward found result answered ?_))
          intro daemon entry exitCode equal
          exact exits ⟨daemon,entry,exitCode,equal⟩
      · cases step
    · cases step
  | close daemon =>
    dsimp only [hubStep] at step
    obtain ⟨_,rfl⟩ := guard_parts step
    exact quiet rfl ⟨start_gates valid (.inr rfl) (.inl rfl) nofun,rfl⟩
  | connect | removeDevice =>
    cases step
    exact quiet rfl ⟨start_gates valid (.inr rfl) (.inl rfl) nofun,rfl⟩
  | createTask | createTerminal | openTerminal | removeTask | removeDirWorkspace | closeSessions | finalizeProject =>
    cases step
    exact quiet rfl ⟨start_gates valid (.inl rfl) (.inl rfl) nofun,rfl⟩
  | startTask =>
    obtain ⟨_,_,rfl⟩ := Option.map_eq_some_iff.mp step
    exact quiet rfl ⟨valid,rfl⟩
  | prepare | sweep | purge =>
    dsimp only [hubStep] at step
    split at step
    · cases step <;> exact quiet rfl ⟨valid,rfl⟩
    · cases step <;> exact quiet rfl ⟨valid,rfl⟩
  | install | enroll | edit | wait | shutdown =>
    cases step
    exact quiet rfl ⟨valid,rfl⟩

theorem gates_fresh : freshHub.Gates := by
  constructor
  · intro taskId row stored
    cases stored
  · intro n gate stage there
    cases there
  · intro n gate stage there
    cases there
  · intro n gate daemon entry exitCode result there
    cases there

-- No other handler binds the session of an exit again before the handler of the exit goes on.
theorem hub_gated (limit : Nat) (actions : List HubAction) :
    (hubMachine limit).Throughout HubState.Gates freshHub actions :=
  throughout_of_preserved (fun _ => id) (fun _ _ _ valid step => (gates_step valid step).1) gates_fresh

theorem exits_told (limit : Nat) (actions : List HubAction) (ran : (hubMachine limit).run freshHub actions = some last) :
    (hubMachine limit).Throughout ExitsTold freshHub actions ↔ (hubMachine limit).Along ExitKnown freshHub actions := by
  refine throughout_iff_along (fun s action next valid step => (gates_step valid step).1) ?_ gates_fresh
    (List.forall_mem_nil _) ran
  intro s action next valid told step
  rcases (gates_step valid step).2 with ⟨same,known⟩ | ⟨_,handled,exact⟩
  · unfold ExitsTold
    rw [same]
    exact ⟨fun _ => known,fun _ => told⟩
  · unfold ExitsTold
    rw [handled,List.forall_mem_cons,exact]
    exact ⟨And.left,fun known => ⟨known,told⟩⟩

def topicWorktree : Workspace := ⟨"topic","account","daemon","project","topic","/repo/topic","topic",false,0⟩

def createdReport : OperationReport := ⟨"operation",true,some "task",some "session",none,none,none,some [2]⟩

def taskOnSession : List HubAction :=
  [.enroll "daemon" ⟨"account",false⟩,.edit ((∅ : Table String Project).insert "project" mainProject)
      (((∅ : Table String Workspace).insert "main" projectWorkspace).insert "topic" topicWorktree),
    .connect "daemon" "account",.acquire 0,.query 0,.resume 0 true,.query 0,.resume 0 true,.query 0,.resume 0 true,.query 0,
    .resume 0 true,.createTask "account" "daemon" "topic" "task",.query 1,.resume 1 true,
    .startTask "task" "session" "operation" [1] 100,.message onlyDaemon (.report createdReport (.operationAck "session")),
    .acquire 2,.query 2,.resume 2 true,.query 2,.resume 2 true]

def plainExit : List HubAction :=
  taskOnSession ++ [.message onlyDaemon (.sessionExit "session" 0),.acquire 3,.query 3,.resume 3 true]

def exitView (actions : List HubAction) : Option (List HandledExit × Option (TaskStatus × Option String)) :=
  ((hubMachine 4).run freshHub actions).map fun s =>
    (s.handled,(s.db.tasks.lookup "task").map fun task => (task.status,task.sessionId))

theorem exits_told_plain : (hubMachine 4).Along ExitKnown freshHub plainExit ∧
    exitView plainExit = some ([⟨"session",false⟩],some (.exited,none)) ∧
      (hubMachine 4).Throughout ExitsTold freshHub plainExit := by
  have known : (hubMachine 4).Along ExitKnown freshHub plainExit := by decide +kernel
  have view : exitView plainExit = some ([⟨"session",false⟩],some (.exited,none)) := by decide +kernel
  obtain ⟨_,ran,_⟩ := Option.map_eq_some_iff.mp view
  exact ⟨known,view,(exits_told 4 _ ran).mpr known⟩

-- The sessions are closed and their mappings dropped at once. The exit that follows tells no task.
def closedBefore : List HubAction :=
  taskOnSession ++ [.closeSessions "account" "daemon" "topic" [],.query 3,.resume 3 true,
    .message onlyDaemon (.sessionExit "session" 0)]

theorem exit_untold : ∃ s, (hubMachine 4).run freshHub closedBefore = some s ∧ s.handled = [⟨"session",true⟩] ∧
    (s.db.tasks.lookup "task").map (fun task => (task.status,task.sessionId)) = some (.running,some "session") ∧
      ¬ ExitsTold s := by
  have view : exitView closedBefore = some ([⟨"session",true⟩],some (.running,some "session")) := by decide +kernel
  obtain ⟨s,ran,same⟩ := Option.map_eq_some_iff.mp view
  obtain ⟨handled,row⟩ := Prod.mk.inj same
  refine ⟨s,ran,handled,row,?_⟩
  intro told
  have first := told ⟨"session",true⟩ (by rw [handled]; exact List.mem_cons_self)
  cases first

end Coflux.Server
