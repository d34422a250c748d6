import Coflux.Server.PreparedOperation

namespace Coflux.Server
open FiniteMap StepMachine
open Option (bind_eq_some_iff getD_some isSome_iff_exists map_eq_some_iff)

section
variable (s : ServiceState)

def DeliveredInTime : Prop := ∀ entry ∈ s.sent, entry.late = false

def told : ServiceAction → List String
  | .complete operationId => [operationId]
  | .cancelMany ids _ => ids
  | .cancelDaemon daemonId _ => s.rowsOf daemonId
  | _ => []

-- The operation whose record a call will send with no further look at the token.
def Thread.holds : Thread → Option String
  | .checked _ current => current.map OperationRecord.id
  | .active _ current => current.map OperationRecord.id
  | .marked _ operationId ok _ row => if ok && row.any isServerInitiated then some operationId else none
  | _ => none

def NothingHeld (action : ServiceAction) : Prop :=
  ∀ operationId ∈ told s action, ∀ n thread, s.threads.lookup n = some thread → thread.holds ≠ some operationId

-- What the facts about records rest on.
structure Ground where
  (now token : Nat)
  operations : Operations
  origins : Table String NewOperation
  settled : List String

def ServiceState.ground : Ground := ⟨s.now,s.completionToken,s.operations,s.origins,s.settled⟩

end

open ServiceState (afterExpiry cancelOne clearWaiters failWaiters notify settle waitersOf)

def Dead (g : Ground) (operationId : String) : Prop :=
  operationId ∈ g.settled ∧ ∃ origin, g.origins.lookup operationId = some origin ∧ g.now < origin.expiresAt

def Known (g : Ground) (row : OperationRecord) : Prop := g.origins.lookup row.operationId = some row.toNewOperation

structure Guarded (g : Ground) (token : Nat) (row : OperationRecord) : Prop where
  known : Known g row
  taken : token ≤ g.token
  alive : token = g.token → row.unsettled = true → ¬ Dead g row.operationId

structure Alive (g : Ground) (row : OperationRecord) : Prop where
  known : Known g row
  alive : ¬ Dead g row.operationId

structure Marked (g : Ground) (operationId : String) (ok : Bool) (row : OperationRecord) : Prop where
  known : Known g row
  named : row.operationId = operationId
  alive : ok = true → isServerInitiated row = true → ¬ Dead g operationId

def ThreadSafe (g : Ground) : Thread → Prop
  | .sweeping time _ => time ≤ g.now
  | .admitting _ _ token => token ≤ g.token
  | .admitted _ token (.resume row) => Guarded g token row
  | .admitted _ token (.created row) => Guarded g token row
  | .rereading _ _ token => token ≤ g.token
  | .reread _ _ token current => ∀ row, current = some row → Guarded g token row
  | .resuming _ _ token => token ≤ g.token
  | .resumed _ _ token current => ∀ row, current = some row → Guarded g token row
  | .readying _ _ _ _ token => token ≤ g.token
  | .ready _ _ _ token rows => ∀ row ∈ rows, Guarded g token row
  | .marked _ operationId ok _ current => ∀ row, current = some row → Marked g operationId ok row
  | .checked _ current => ∀ row, current = some row → Alive g row
  | .active _ current => ∀ row, current = some row → Alive g row
  | _ => True

-- Rows are what they were created as, and what has ended has no open row.
structure Kept (g : Ground) : Prop where
  rows : ∀ id row, g.operations.lookup id = some row → row.operationId = id ∧ Known g row
  settled : ∀ id ∈ g.settled, (g.origins.lookup id).isSome = true ∧
    ∀ row, g.operations.lookup id = some row → row.unsettled = false

structure WaiterSafe (g : Ground) (operationId : String) (waiter : Waiter) : Prop where
  alive : ¬ Dead g operationId
  known : ∃ origin, g.origins.lookup operationId = some origin ∧ waiter.operation = origin.brief

structure Safe (s : ServiceState) : Prop where
  kept : Kept s.ground
  waiters : ∀ operationId, ∀ waiter ∈ s.waitersOf operationId, WaiterSafe s.ground operationId waiter
  threads : ∀ n thread, s.threads.lookup n = some thread → ThreadSafe s.ground thread
  sent : DeliveredInTime s

-- Nothing ends early from the one to the other.
structure Onward (g next : Ground) : Prop where
  now : g.now ≤ next.now
  token : g.token ≤ next.token
  origins : ∀ id origin, g.origins.lookup id = some origin → next.origins.lookup id = some origin
  dead : ∀ id, Dead next id → Dead g id

theorem thread_carries (now : g.now ≤ next.now) (token : g.token ≤ next.token)
    (origins : ∀ id origin, g.origins.lookup id = some origin → next.origins.lookup id = some origin)
    (guarded : ∀ token row, Guarded g token row → Guarded next token row)
    (dead : ∀ id, thread.holds = some id → Dead next id → Dead g id) (safe : ThreadSafe g thread) : ThreadSafe next thread := by
  cases thread with
  | sweeping => exact Nat.le_trans safe now
  | admitting | rereading | resuming | readying => exact Nat.le_trans safe token
  | admitted client token admission =>
    cases admission with
    | resume | created => exact guarded _ _ safe
    | full | conflict | rejected | unavailable => exact True.intro
  | reread | resumed => exact fun row found => guarded _ _ (safe _ found)
  | ready => exact fun row mem => guarded _ _ (safe _ mem)
  | marked daemon operationId ok error current =>
    intro row found
    obtain ⟨known,named,alive⟩ := safe _ found
    refine ⟨origins _ _ known,named,?_⟩
    intro done own gone
    exact alive done own (dead _ (by simp [Thread.holds,found,done,own]) gone)
  | checked client current | active client current =>
    intro row found
    obtain ⟨known,alive⟩ := safe _ found
    exact ⟨origins _ _ known,fun gone => alive (dead _ (found ▸ rfl) gone)⟩
  | purging | swept | listing | listed | marking | retrying | retried | expired => exact True.intro

section Onward
section
variable (onward : Onward g next)
include onward

theorem onward_known (known : Known g row) : Known next row :=
  onward.origins row.operationId row.toNewOperation known

theorem onward_guarded (guarded : Guarded g token row) : Guarded next token row := by
  refine ⟨onward_known onward guarded.known,Nat.le_trans guarded.taken onward.token,?_⟩
  intro current unsettled dead
  have same : token = g.token := by
    have taken := guarded.taken
    have later := onward.token
    omega
  exact guarded.alive same unsettled (onward.dead _ dead)

theorem onward_thread (safe : ThreadSafe g thread) : ThreadSafe next thread :=
  thread_carries onward.now onward.token onward.origins (fun _ _ => onward_guarded onward) (fun id _ => onward.dead id) safe

theorem onward_waiter (safe : WaiterSafe g operationId waiter) : WaiterSafe next operationId waiter := by
  obtain ⟨origin,found,same⟩ := safe.known
  exact ⟨fun dead => safe.alive (onward.dead _ dead),origin,onward.origins _ _ found,same⟩

end

theorem Onward.refl (g : Ground) : Onward g g := ⟨Nat.le_refl _,Nat.le_refl _,fun _ _ => id,fun _ => id⟩

end Onward

-- A step that ends no operation early: its threads are those that were there, or new safe ones.
theorem safe_onward (safe : Safe s) (onward : Onward s.ground next.ground) (kept : Kept next.ground)
    (waiters : next.waitersOf = s.waitersOf)
    (threads : ∀ n thread, next.threads.lookup n = some thread →
      s.threads.lookup n = some thread ∨ ThreadSafe next.ground thread)
    (sent : DeliveredInTime next) : Safe next := by
  refine ⟨kept,?_,?_,sent⟩
  · rw [waiters]
    exact fun _ _ mem => onward_waiter onward (safe.waiters _ _ mem)
  · intro n thread found
    rcases threads n thread found with earlier | fresh
    · exact onward_thread onward (safe.threads n _ earlier)
    · exact fresh

structure Quiet (s next : ServiceState) : Prop where
  ground : next.ground = s.ground
  threads : next.threads = s.threads
  waiters : ∀ operationId, ∀ waiter ∈ next.waitersOf operationId, waiter ∈ s.waitersOf operationId
  sent : DeliveredInTime s → DeliveredInTime next

theorem Quiet.refl (s : ServiceState) : Quiet s s := ⟨rfl,rfl,fun _ _ => id,id⟩

theorem Quiet.trans (one : Quiet a b) (two : Quiet b c) : Quiet a c where
  ground := two.ground.trans one.ground
  threads := two.threads.trans one.threads
  waiters := fun operationId waiter mem => one.waiters operationId waiter (two.waiters operationId waiter mem)
  sent := fun sent => two.sent (one.sent sent)

theorem Quiet.safe (quiet : Quiet s next) (safe : Safe s) : Safe next := by
  refine ⟨?_,?_,?_,quiet.sent safe.sent⟩
  · rw [quiet.ground]
    exact safe.kept
  · rw [quiet.ground]
    exact fun _ _ mem => safe.waiters _ _ (quiet.waiters _ _ mem)
  · rw [quiet.ground,quiet.threads]
    exact safe.threads

theorem quiet_foldl {items : List α}
    (each : ∀ s' item, s'.ground = s.ground → item ∈ items → Quiet s' (f s' item)) : Quiet s (items.foldl f s) := by
  -- The start moves with the fold; its ground is that of s.
  suffices general : ∀ start : ServiceState, start.ground = s.ground → Quiet start (items.foldl f start) from general s rfl
  intro start same
  induction items generalizing start with
  | nil => exact Quiet.refl start
  | cons item rest ih =>
    have first := each _ _ same List.mem_cons_self
    have later := ih (fun s' _ same mem => each s' _ same (List.mem_cons_of_mem item mem))
      (f _ _) (first.ground.trans same)
    exact first.trans later

section Notifying
variable {s : ServiceState}

theorem send_quiet (message : Message) (delivers : message.delivers = none) : Quiet s (s.send message) := by
  refine ⟨rfl,rfl,fun _ _ => id,?_⟩
  intro sent entry mem
  rcases List.mem_cons.mp mem with rfl | earlier
  · rw [delivers,Option.any_none]
  · exact sent entry earlier

theorem sendError_quiet : Quiet s (s.sendError client text) := by
  unfold ServiceState.sendError
  split
  · exact Quiet.refl s
  · exact send_quiet _ rfl

theorem erase_waiters (operationId other : String) (mem : waiter ∈ (s.clearWaiters operationId).waitersOf other) :
    other ≠ operationId ∧ waiter ∈ s.waitersOf other := by
  unfold waitersOf clearWaiters at mem
  by_cases same : other = operationId
  · subst same
    rw [AList.lookup_erase] at mem
    cases mem
  · rw [AList.lookup_erase_ne same] at mem
    exact ⟨same,mem⟩

theorem clearWaiters_quiet (operationId : String) : Quiet s (s.clearWaiters operationId) :=
  ⟨rfl,rfl,fun other _ mem => (erase_waiters _ other mem).2,id⟩

theorem cancelRetry_quiet (operationId : String) : Quiet s (s.cancelRetry operationId) :=
  ⟨rfl,rfl,fun _ _ => id,id⟩

theorem notify_quiet (operationId text : String) (waiter : Waiter) : Quiet s (s.notify operationId text waiter) := by
  unfold notify
  split
  · exact sendError_quiet
  · exact send_quiet _ rfl

theorem failWaiters_quiet : Quiet s (s.failWaiters operationId text) := by
  unfold failWaiters
  split
  · exact clearWaiters_quiet _
  · exact (quiet_foldl fun _ _ _ _ => notify_quiet _ _ _).trans (clearWaiters_quiet _)

section
variable {operationId : String}

theorem finishRetry_quiet : Quiet s (s.finishRetry operationId serial) := by
  unfold ServiceState.finishRetry
  split
  · exact cancelRetry_quiet _
  · exact Quiet.refl s

theorem handleRetryReadFailure_quiet : Quiet s (s.handleRetryReadFailure operationId serial) := by
  unfold ServiceState.handleRetryReadFailure
  split
  · exact Quiet.refl s
  · split
    · exact Quiet.refl s
    · split
      · exact finishRetry_quiet.trans failWaiters_quiet
      · split
        · exact finishRetry_quiet.trans failWaiters_quiet
        · exact ⟨rfl,rfl,fun _ _ => id,id⟩

theorem dispatch_quiet : Quiet s (s.dispatch operation) := by
  unfold ServiceState.dispatch
  split
  · exact Quiet.refl s
  · rename_i daemon _
    split
    · exact Quiet.refl s
    · have sent := send_quiet (s := s) (.preparedToDaemon daemon operation.preparedFrame) rfl
      exact {sent with}

theorem answer_quiet : Quiet s (s.answer client text) := by
  unfold ServiceState.answer
  split
  · exact sendError_quiet
  · exact send_quiet _ rfl

theorem expireOne_quiet : Quiet s (s.expireOne operationId) :=
  (cancelRetry_quiet operationId).trans failWaiters_quiet

end

theorem cancelOne_quiet (text operationId : String) : Quiet s (s.cancelOne text operationId) := by
  refine Quiet.trans ?_ (send_quiet _ rfl)
  refine (cancelRetry_quiet operationId).trans ?_
  split
  · exact failWaiters_quiet
  · exact clearWaiters_quiet _

theorem removeClient_quiet : Quiet s (s.removeClient client) := by
  refine ⟨rfl,rfl,?_,id⟩
  intro operationId waiter mem
  unfold waitersOf ServiceState.removeClient at mem
  cases found : (keep (fun _ waiters => waiters != []) (mapValues (fun _ waiters =>
      waiters.filter fun waiter => waiter.client ≠ some client) s.waitersByOperation)).lookup operationId with
  | none => rw [found] at mem; cases mem
  | some waiters =>
    rw [found,getD_some] at mem
    have kept := (keep_lookup found).1
    rw [lookup_mapValues] at kept
    obtain ⟨_,earlier,rfl⟩ := map_eq_some_iff.mp kept
    rw [waitersOf,earlier,getD_some]
    exact List.mem_of_mem_filter mem

theorem shutdown_quiet : Quiet s s.shutdown := ⟨rfl,rfl,nofun,id⟩

theorem waitersOf_insert
    (mem : waiter ∈ {s with waitersByOperation := s.waitersByOperation.insert operationId waiters}.waitersOf other) :
    other = operationId ∧ waiter ∈ waiters ∨ waiter ∈ s.waitersOf other := by
  unfold waitersOf at mem ⊢
  by_cases same : other = operationId
  · subst same
    rw [AList.lookup_insert,getD_some] at mem
    exact .inl ⟨rfl,mem⟩
  · rw [AList.lookup_insert_ne same] at mem
    exact .inr mem

theorem waiterTimeout_quiet : Quiet s (s.waiterTimeout operationId client) := by
  have removed : Quiet s (if (s.waitersOf operationId).filter (fun waiter => waiter.client ≠ client) = [] then
      s.clearWaiters operationId
      else
        {s with
          waitersByOperation := s.waitersByOperation.insert operationId
            ((s.waitersOf operationId).filter fun waiter => waiter.client ≠ client)}) := by
    split
    · exact clearWaiters_quiet _
    · refine ⟨rfl,rfl,?_,id⟩
      intro other waiter mem
      rcases waitersOf_insert mem with ⟨rfl,rest⟩ | earlier
      · exact List.mem_of_mem_filter rest
      · exact earlier
  unfold ServiceState.waiterTimeout
  split
  · exact removed.trans sendError_quiet
  · exact removed.trans (send_quiet _ rfl)

end Notifying

section Sending
-- A record that is not dead is sent in time: past its deadline it is not sent at all.
theorem deliver_quiet (delivers : message.delivers = some operationId) (known : Known s.ground row)
    (named : row.operationId = operationId) (alive : ¬ Dead s.ground operationId) (early : s.now < row.expiresAt) :
    Quiet s (s.send message) := by
  refine ⟨rfl,rfl,fun _ _ => id,?_⟩
  intro sent entry mem
  rcases List.mem_cons.mp mem with rfl | earlier
  · rw [delivers,Option.any_some]
    cases ended : s.settled.contains operationId with
    | false => rfl
    | true =>
      subst named
      exact absurd ⟨List.contains_iff_mem.mp ended,_,known,early⟩ alive
  · exact sent entry earlier

theorem emit_quiet (known : Known s.ground row)
    (alive : row.unsettled = true → ¬ Dead s.ground row.operationId) : Quiet s (s.emitToClient client row initialSnapshot) := by
  unfold ServiceState.emitToClient
  split
  · exact Quiet.refl s
  · rename_i passes
    simp only [Bool.or_eq_true,not_or,bne_iff_ne,ne_eq,not_not,decide_eq_true_eq,Nat.not_le,Bool.not_eq_true] at passes
    obtain ⟨⟨⟨_,unfinished⟩,installed⟩,early⟩ := passes
    have unsettled : row.unsettled = true := by simp [OperationRecord.unsettled,unfinished,installed]
    exact deliver_quiet rfl known rfl (alive unsettled) early

theorem execute_quiet (known : Known s.ground row) (alive : ¬ Dead s.ground row.operationId) : Quiet s (s.sendExecute row) := by
  unfold ServiceState.sendExecute
  split
  · exact Quiet.refl s
  · rename_i passes
    simp only [Bool.or_eq_true,not_or,decide_eq_true_eq,Nat.not_le] at passes
    split
    · exact Quiet.refl s
    · split
      · exact deliver_quiet rfl known rfl alive passes.2
      · exact Quiet.refl s

section
variable (safe : Safe s) (alive : Alive s.ground row)
include safe alive

theorem watch_safe : Safe (s.watch row.toNewOperation.brief client) := by
  unfold ServiceState.watch
  split
  · exact safe
  · refine {safe with waiters := ?_}
    intro other waiter mem
    rcases waitersOf_insert mem with ⟨rfl,added⟩ | earlier
    · rcases List.mem_append.mp added with old | new
      · exact safe.waiters _ _ old
      · rw [List.mem_singleton.mp new]
        exact ⟨alive.alive,row.toNewOperation,alive.known,rfl⟩
    · exact safe.waiters _ _ earlier

theorem resumeForClient_safe : Safe (s.resumeCurrentForClient client row) := by
  unfold ServiceState.resumeCurrentForClient
  split
  · exact safe
  · split
    · exact (emit_quiet alive.known fun _ => alive.alive).safe safe
    · exact dispatch_quiet.safe (watch_safe safe alive)

theorem resumeForServer_safe : Safe (s.resumeCurrentForServer row) := by
  unfold ServiceState.resumeCurrentForServer
  split
  · exact safe
  · split
    · exact (execute_quiet alive.known alive.alive).safe safe
    · exact dispatch_quiet.safe (watch_safe safe alive)

end

theorem resumeForClientless_quiet : Quiet s (s.resumeForClientless row) := by
  unfold ServiceState.resumeForClientless
  split
  · exact Quiet.refl s
  · exact dispatch_quiet

theorem prepared_safe (safe : Safe s) (alive : ∀ row, current = some row → Alive s.ground row) :
    Safe (s.prepared client current) := by
  unfold ServiceState.prepared
  split
  · exact safe
  · exact resumeForClient_safe safe (alive _ rfl)
  · exact answer_quiet.safe safe
  · refine (send_quiet _ rfl).safe ?_
    split
    · exact resumeForServer_safe safe (alive _ rfl)
    · exact resumeForClientless_quiet.safe safe

theorem handleInstalled_safe (safe : Safe s) (marked : ∀ row, current = some row → Marked s.ground operationId ok row) :
    Safe (s.handleInstalled daemon operationId ok error current) := by
  unfold ServiceState.handleInstalled
  split
  · exact safe
  · split
    · exact safe
    · rename_i operation found
      have fact := marked _ (Option.filter_eq_some_iff.mp found).1
      have cancelled := cancelRetry_quiet (s := s) operationId
      split
      · exact (cancelled.trans failWaiters_quiet).safe safe
      · rename_i done
        split
        · rename_i own
          have cleared := cancelled.trans (clearWaiters_quiet operationId)
          refine (cleared.trans (execute_quiet ?_ ?_)).safe safe
          · exact fact.known
          · rw [fact.named]
            exact fact.alive (Decidable.not_not.mp done) own
        · -- Whoever still waits has not been told that the operation has ended.
          refine (cancelled.trans ((quiet_foldl ?_).trans (clearWaiters_quiet _))).safe safe
          intro s' client same mem
          obtain ⟨_,waits,_⟩ := List.mem_filterMap.mp mem
          refine emit_quiet ?_ ?_
          · rw [same]
            exact fact.known
          · intro _
            rw [same,fact.named]
            exact (safe.waiters _ _ waits).alive

end Sending

section Threads
variable {s : ServiceState}

theorem setThread_safe (safe : Safe s) (fact : ThreadSafe s.ground thread) : Safe (s.setThread n thread) := by
  refine safe_onward safe (Onward.refl s.ground) safe.kept rfl ?_ safe.sent
  intro other found later
  rcases insert_lookup later with ⟨_,rfl⟩ | ⟨_,earlier⟩
  · exact .inr fact
  · exact .inl earlier

theorem endThread_safe (safe : Safe s) : Safe (s.endThread n) :=
  safe_onward safe (Onward.refl s.ground) safe.kept rfl (fun _ _ found => .inl (erase_lookup found)) safe.sent

theorem call_safe (safe : Safe s) (fact : ThreadSafe s.ground thread) : Safe (s.call thread) := by
  have counted : Safe {s with calls := s.calls + 1} := {safe with}
  exact setThread_safe counted fact

theorem advance_safe (safe : Safe s) : Safe s.advance := by
  have onward : Onward s.ground s.advance.ground :=
    ⟨Nat.le_refl _,Nat.le_succ _,fun _ _ => id,fun _ => id⟩
  exact safe_onward safe onward ⟨safe.kept.rows,safe.kept.settled⟩ rfl (fun _ _ => .inl) safe.sent

theorem expireDue_safe (safe : Safe s) : Safe (s.expireDueOperations time count) := by
  unfold ServiceState.expireDueOperations
  split
  · exact safe
  · exact (quiet_foldl fun _ _ _ _ => expireOne_quiet).safe (advance_safe safe)

theorem live_unsettled (live : s.live row = true) : row.unsettled = true := by
  simp only [ServiceState.live,Bool.and_eq_true,Bool.not_eq_true'] at live
  obtain ⟨⟨_,_⟩,_⟩ := live
  cases state : row.state <;> simp_all [OperationRecord.unsettled,isInstallableState]

theorem filter_alive (guarded : ∀ row, current = some row → Guarded s.ground token row) (same : token = s.completionToken)
    (found : current.filter s.live = some row) : Alive s.ground row := by
  obtain ⟨given,live⟩ := Option.filter_eq_some_iff.mp found
  have fact := guarded _ given
  exact ⟨fact.known,fact.alive same (live_unsettled live)⟩

theorem stableAdmitted_safe (safe : Safe s)
    (guarded : ∀ row, current = some row → Guarded s.ground token row) :
    Safe (s.stableAdmitted n client operationId token current) := by
  unfold ServiceState.stableAdmitted
  split
  · exact setThread_safe safe (Nat.le_refl _)
  · rename_i same
    refine setThread_safe safe ?_
    intro row found
    exact filter_alive guarded (Decidable.not_not.mp same) found

theorem checked_none : ThreadSafe g (.checked client none) := fun _ found => nomatch found

theorem active_none : ThreadSafe g (.active client none) := fun _ found => nomatch found

section
variable (safe : Safe s)
include safe

theorem readActive_safe : Safe (s.readActiveOperation n client operationId) := by
  unfold ServiceState.readActiveOperation
  split
  · exact setThread_safe safe active_none
  · exact setThread_safe safe (Nat.le_refl _)

theorem afterExpiry_safe : Safe (s.afterExpiry n next) := by
  cases next with
  | prepare client operation =>
    unfold afterExpiry
    dsimp only
    split
    · refine endThread_safe ?_
      cases client with
      | some client => exact safe
      | none => exact answer_quiet.safe safe
    · exact setThread_safe safe (Nat.le_refl _)
  | restore daemon =>
    unfold afterExpiry
    dsimp only
    split
    · exact endThread_safe safe
    · exact setThread_safe safe True.intro
  | retry operationId serial =>
    unfold afterExpiry
    dsimp only
    split
    · exact endThread_safe ((finishRetry_quiet.trans failWaiters_quiet).safe safe)
    · exact endThread_safe safe

theorem admissionReturned_safe (fact : ThreadSafe s.ground (.admitted client token admission)) :
    Safe (s.admissionReturned n client token admission) := by
  unfold ServiceState.admissionReturned
  split
  · refine endThread_safe ?_
    cases client with
    | some client => exact safe
    | none => exact answer_quiet.safe safe
  · cases admission with
    | resume row | created row =>
      refine stableAdmitted_safe safe ?_
      rintro other ⟨⟩
      exact fact
    | full | conflict | rejected | unavailable => exact endThread_safe (answer_quiet.safe safe)

theorem retryRead_safe : Safe (s.retryRead n operationId serial row) := by
  unfold ServiceState.retryRead
  split
  · exact endThread_safe safe
  · split
    · exact endThread_safe (finishRetry_quiet.safe safe)
    · split
      · exact setThread_safe safe (Nat.le_refl _)
      · split
        · exact endThread_safe (finishRetry_quiet.safe safe)
        · exact endThread_safe (dispatch_quiet.safe safe)

theorem resume_safe (found : s.threads.lookup n = some thread) (resumed : s.resume n thread = some next) : Safe next := by
  have fact := safe.threads n _ found
  cases thread with
  | swept time count after => cases resumed; exact setThread_safe (expireDue_safe safe) True.intro
  | expired after => cases resumed; exact afterExpiry_safe safe
  | admitted client token admission => cases resumed; exact admissionReturned_safe safe fact
  | reread client operationId token current =>
    cases resumed
    split
    · exact setThread_safe safe checked_none
    · exact stableAdmitted_safe safe fact
  | checked client current => cases resumed; exact endThread_safe (prepared_safe safe fact)
  | resumed client operationId token current =>
    cases resumed
    split
    · exact setThread_safe safe active_none
    · rename_i going
      split
      · rename_i same
        refine setThread_safe safe ?_
        rintro row rfl
        refine filter_alive fact same ?_
        cases live : s.live row with
        | true => simp [Option.filter,live]
        | false => simp [Option.filter,live] at going
      · exact readActive_safe safe
  | active client current =>
    cases resumed
    refine endThread_safe ?_
    cases current with
    | some row => exact resumeForClient_safe safe (fact _ rfl)
    | none => exact safe
  | listed daemon token rows =>
    cases resumed
    split
    · exact endThread_safe safe
    · split
      · exact setThread_safe safe True.intro
      · exact endThread_safe ((quiet_foldl fun _ row _ _ => dispatch_quiet).safe safe)
  | ready client accountId initialSnapshot token rows =>
    cases resumed
    split
    · exact endThread_safe safe
    · split
      · exact setThread_safe safe (Nat.le_refl _)
      · rename_i same
        refine endThread_safe ((quiet_foldl ?_).safe safe)
        intro s' row ground mem
        have guarded := fact _ (List.mem_of_mem_filter mem)
        refine emit_quiet ?_ ?_
        · rw [ground]
          exact guarded.known
        · rw [ground]
          exact guarded.alive (Decidable.not_not.mp same)
  | marked daemon operationId ok error row =>
    cases resumed
    exact endThread_safe (handleInstalled_safe safe fact)
  | retried operationId serial row => cases resumed; exact retryRead_safe safe
  | sweeping | purging | admitting | rereading | resuming | listing | readying | marking | retrying => cases resumed

end

end Threads

section Database
variable {s : ServiceState}

theorem succeeds_kept (kept : Kept s.ground) (succeeds : Succeeds s.operations operations) :
    Kept {s.ground with operations := operations} := by
  constructor
  · intro id new found
    obtain ⟨old,before,evolves⟩ := succeeds id new found
    obtain ⟨named,known⟩ := kept.rows id _ before
    have same : new.operationId = old.operationId := congrArg NewOperation.operationId evolves.identity
    refine ⟨same.trans named,?_⟩
    change s.origins.lookup new.operationId = _
    rw [same,evolves.identity]
    exact known
  · intro id mem
    obtain ⟨created,ended⟩ := kept.settled id mem
    refine ⟨created,?_⟩
    intro new found
    obtain ⟨_,before,evolves⟩ := succeeds id new found
    exact evolves.closed (ended _ before)

section
variable (safe : Safe s)
include safe

theorem statement_safe (succeeds : Succeeds s.operations operations) : Safe {s with operations := operations} := by
  have onward : Onward s.ground {s.ground with operations := operations} :=
    ⟨Nat.le_refl _,Nat.le_refl _,fun _ _ => id,fun _ => id⟩
  exact safe_onward safe onward (succeeds_kept safe.kept succeeds) rfl (fun _ _ => .inl) safe.sent

theorem sweep_safe (past : time ≤ s.now) : Safe (s.sweep time) := by
  have swept : Kept {s.ground with operations := (s.operations.sweep time).1} :=
    succeeds_kept safe.kept sweep_updates.succeeds
  have due : ∀ id ∈ (s.operations.select (Operations.due time)).map OperationRecord.id,
      ∃ row, s.operations.lookup id = some row ∧ Known s.ground row ∧ Operations.due time row = true := by
    intro id mem
    obtain ⟨row,selected,rfl⟩ := List.mem_map.mp mem
    obtain ⟨_,found,passes⟩ := mem_select selected
    obtain ⟨named,known⟩ := safe.kept.rows _ _ found
    refine ⟨row,?_,known,passes⟩
    change s.operations.lookup row.operationId = some row
    rw [named]
    exact found
  have onward : Onward s.ground (s.sweep time).ground := by
    refine ⟨Nat.le_refl _,Nat.le_refl _,fun _ _ => id,?_⟩
    rintro id ⟨mem,origin,found,early⟩
    rcases List.mem_append.mp mem with new | old
    · obtain ⟨row,stored,known,passes⟩ := due id new
      have named := (safe.kept.rows id _ stored).1
      have same : row.toNewOperation = origin := by
        have known : s.origins.lookup row.operationId = some row.toNewOperation := known
        rw [named] at known
        exact Option.some.inj (known.symm.trans found)
      simp only [Operations.due,Bool.and_eq_true,decide_eq_true_eq] at passes
      have early : s.now < origin.expiresAt := early
      rw [← same] at early
      omega
    · exact ⟨old,origin,found,early⟩
  refine safe_onward safe onward ⟨swept.rows,?_⟩ rfl (fun _ _ => .inl) safe.sent
  intro id mem
  rcases List.mem_append.mp mem with new | old
  · obtain ⟨row,stored,known,passes⟩ := due id new
    have named := (safe.kept.rows id _ stored).1
    refine ⟨isSome_iff_exists.mpr ⟨row.toNewOperation,named ▸ known⟩,?_⟩
    intro after found
    have found : (s.operations.updateAll (Operations.due time) (Operations.expire time)).lookup id = some after := found
    rw [updateAll_lookup,stored,Option.map_some,if_pos passes] at found
    cases found
    simp [OperationRecord.unsettled,Operations.expire]
  · exact swept.settled id old

theorem row_guarded (taken : token ≤ s.completionToken)
    (found : s.operations.lookup operationId = some row) : Guarded s.ground token row := by
  obtain ⟨named,known⟩ := safe.kept.rows _ _ found
  refine ⟨known,taken,?_⟩
  rintro _ unsettled ⟨mem,_⟩
  have ended := (safe.kept.settled _ mem).2 row (named.symm ▸ found)
  rw [unsettled] at ended
  cases ended

theorem mark_safe (daemon : Daemon) :
    Safe ({s with operations := (s.operations.markPreparedOperationInstalled time operationId daemon.daemonId ok error).1}.setThread
      n (.marked daemon operationId ok error
        (s.operations.markPreparedOperationInstalled time operationId daemon.daemonId ok error).2)) := by
  refine setThread_safe (statement_safe safe (mark_updates _).succeeds) ?_
  intro row returned
  obtain ⟨old,before,passes,rfl,_⟩ := updateOne_returned returned
  obtain ⟨named,known⟩ := safe.kept.rows _ _ before
  refine ⟨known,named,?_⟩
  rintro _ _ ⟨mem,_⟩
  have ended := (safe.kept.settled _ mem).2 old before
  simp only [Bool.and_eq_true,Bool.not_eq_true'] at passes
  obtain ⟨⟨⟨_,_⟩,_⟩,_⟩ := passes
  cases state : old.state <;> simp_all [OperationRecord.unsettled,isInstallableState]

theorem query_safe (found : s.threads.lookup n = some thread) (asked : s.query n thread = some next) : Safe next := by
  have fact := safe.threads n _ found
  cases thread with
  | sweeping time after => cases asked; exact setThread_safe (sweep_safe safe fact) True.intro
  | purging time count after => cases asked; exact setThread_safe (statement_safe safe purge_succeeds) True.intro
  | rereading client operationId token | resuming client operationId token =>
    cases asked
    exact setThread_safe safe fun row read => row_guarded safe fact read
  | listing | retrying => cases asked; exact setThread_safe safe True.intro
  | readying client accountId initialSnapshot time token =>
    cases asked
    refine setThread_safe safe ?_
    intro row mem
    obtain ⟨_,stored,_⟩ := mem_select (List.mem_of_mem_take mem)
    exact row_guarded safe fact stored
  | marking daemon operationId ok error time => cases asked; exact mark_safe safe _
  | swept | admitting | admitted | reread | resumed | listed | ready | marked | retried | expired | checked
  | active => cases asked

theorem fail_safe (failed : s.fail n thread = some next) : Safe next := by
  unfold ServiceState.fail at failed
  split at failed
  · cases failed; exact afterExpiry_safe safe
  · cases failed; exact afterExpiry_safe safe
  · cases failed; exact endThread_safe (handleRetryReadFailure_quiet.safe safe)
  · cases failed
  · cases failed
  · cases failed
  · cases failed; exact endThread_safe safe

end

-- What the admission finds: a row that is there, or the one that it creates.
inductive Admits (s : ServiceState) (operation : NewOperation) : Operations × Admission → Prop where
  | resume (id : String) (found : s.operations.lookup id = some row) : Admits s operation (s.operations,.resume row)
  | created (new : s.operations.lookup operation.operationId = none) (same : row.toNewOperation = operation) :
      Admits s operation (s.operations.insert operation.operationId row,.created row)
  | refused (none : ∀ row, admission ≠ .resume row ∧ admission ≠ .created row) : Admits s operation (s.operations,admission)

theorem create_cases (operations : Operations) :
    operations.createPreparedOperation now operation = (operations,none) ∨
      ∃ row, row.toNewOperation = operation ∧ operations.lookup operation.operationId = none ∧
        operations.createPreparedOperation now operation = (operations.insert operation.operationId row,some row) := by
  unfold Operations.createPreparedOperation
  dsimp only
  split
  · exact .inl rfl
  · rename_i free
    refine .inr ⟨_,rfl,?_,rfl⟩
    simp only [Bool.or_eq_true,not_or,Option.isSome_iff_ne_none,ne_eq,not_not] at free
    exact free.1

theorem findActive_found (found : s.findActive operations operation = some row) : ∃ id, operations.lookup id = some row := by
  obtain ⟨_,_,active⟩ := bind_eq_some_iff.mp found
  obtain ⟨id,stored,_⟩ := mem_select (List.mem_of_getLast? active)
  exact ⟨id,stored⟩

theorem admit_cases (s : ServiceState) (operation : NewOperation) (rejection : Option String) :
    Admits s operation (s.admitOperation operation rejection) := by
  unfold ServiceState.admitOperation
  split
  · exact .refused fun _ => ⟨nofun,nofun⟩
  · split
    · exact .refused fun _ => ⟨nofun,nofun⟩
    · split
      · rename_i existing
        obtain ⟨id,stored⟩ := findActive_found existing
        exact .resume id stored
      · split
        · exact .refused fun _ => ⟨nofun,nofun⟩
        · rcases create_cases s.operations with same | ⟨row,origin,new,same⟩
          · rw [same]
            dsimp only
            split
            · rename_i raced
              obtain ⟨id,stored⟩ := findActive_found raced
              exact .resume id stored
            · exact .refused fun _ => ⟨nofun,nofun⟩
          · rw [same]
            exact .created new origin

theorem create_safe (safe : Safe s) (fresh : s.origins.lookup operation.operationId = none)
    (same : row.toNewOperation = operation) :
    Safe {s with
      operations := s.operations.insert operation.operationId row
      origins := s.origins.insert operation.operationId operation} := by
  have others : ∀ id origin, s.origins.lookup id = some origin →
      (s.origins.insert operation.operationId operation).lookup id = some origin := by
    intro id origin found
    refine (AList.lookup_insert_ne ?_).trans found
    rintro rfl
    rw [fresh] at found
    cases found
  have unused : operation.operationId ∉ s.settled := by
    intro mem
    have created := (safe.kept.settled _ mem).1
    change (s.origins.lookup operation.operationId).isSome = true at created
    rw [fresh] at created
    cases created
  refine safe_onward safe ⟨Nat.le_refl _,Nat.le_refl _,others,?_⟩ ⟨?_,?_⟩ rfl (fun _ _ => .inl) safe.sent
  · rintro id ⟨mem,origin,found,early⟩
    rcases insert_lookup found with ⟨rfl,_⟩ | ⟨_,earlier⟩
    · exact absurd mem unused
    · exact ⟨mem,origin,earlier,early⟩
  · intro id new found
    rcases insert_lookup found with ⟨rfl,rfl⟩ | ⟨_,earlier⟩
    · have named : new.operationId = operation.operationId := congrArg NewOperation.operationId same
      refine ⟨named,?_⟩
      change (s.origins.insert operation.operationId operation).lookup new.operationId = some new.toNewOperation
      rw [named,same]
      exact AList.lookup_insert s.origins
    · obtain ⟨named,known⟩ := safe.kept.rows id new earlier
      exact ⟨named,others _ _ known⟩
  · intro id mem
    obtain ⟨created,ended⟩ := safe.kept.settled id mem
    obtain ⟨origin,found⟩ := isSome_iff_exists.mp created
    refine ⟨isSome_iff_exists.mpr ⟨origin,others id _ found⟩,?_⟩
    intro new later
    rcases insert_lookup later with ⟨rfl,_⟩ | ⟨_,earlier⟩
    · exact absurd mem unused
    · exact ended new earlier

theorem admit_safe (safe : Safe s)
    (fresh : s.origins.lookup operation.operationId = none) (taken : token ≤ s.completionToken) :
    Safe ({s with
      operations := (s.admitOperation operation rejection).1
      origins := match (s.admitOperation operation rejection).2 with
        | .created _ => s.origins.insert operation.operationId operation
        | _ => s.origins}.setThread n (.admitted client token (s.admitOperation operation rejection).2)) := by
  generalize result : s.admitOperation operation rejection = admitted
  have cases_ := admit_cases s operation rejection
  rw [result] at cases_
  cases cases_ with
  | resume id found => exact setThread_safe safe (row_guarded safe taken found)
  | created new same =>
    have created := create_safe safe fresh same
    exact setThread_safe created (row_guarded created taken (AList.lookup_insert s.operations))
  | @refused admission neither =>
    cases admission with
    | resume row => exact absurd rfl (neither _).1
    | created row => exact absurd rfl (neither _).2
    | full | conflict | rejected | unavailable => exact setThread_safe safe True.intro

end Database

section Told
variable {s : ServiceState}

-- The token has moved, so that every record it guards will be read again.
def Ground.tell (g : Ground) (ids : List String) : Ground := {g with token := g.token + 1,settled := ids ++ g.settled}

theorem dead_tell (dead : Dead (g.tell ids) operationId) : operationId ∈ ids ∨ Dead g operationId := by
  obtain ⟨mem,origin,found,early⟩ := dead
  rcases List.mem_append.mp mem with new | old
  · exact .inl new
  · exact .inr ⟨old,origin,found,early⟩

theorem guarded_tell (guarded : Guarded g token row) : Guarded (g.tell ids) token row := by
  have taken := guarded.taken
  refine ⟨guarded.known,Nat.le_succ_of_le taken,?_⟩
  intro same
  change token = g.token + 1 at same
  omega

theorem thread_tell (safe : ThreadSafe g thread)
    (free : ∀ id ∈ ids, thread.holds ≠ some id) : ThreadSafe (g.tell ids) thread := by
  refine thread_carries (g := g) (Nat.le_refl _) (Nat.le_succ _) (fun _ _ found => found) (fun _ _ guarded => guarded_tell guarded)
    ?_ safe
  intro id held gone
  exact (dead_tell gone).resolve_left fun told => free id told held

theorem told_safe (safe : Safe s) (ended : ∀ id ∈ ids, s.ended id = true)
    (free : ∀ id ∈ ids, ∀ n thread, s.threads.lookup n = some thread → thread.holds ≠ some id)
    (ground : next.ground = s.ground.tell ids) (threads : next.threads = s.threads)
    (waiters : ∀ id, ∀ waiter ∈ next.waitersOf id, waiter ∈ s.waitersOf id ∧ id ∉ ids) (sent : DeliveredInTime next) :
    Safe next := by
  refine ⟨?_,?_,?_,sent⟩
  · rw [ground]
    refine ⟨safe.kept.rows,?_⟩
    intro id mem
    rcases List.mem_append.mp mem with new | old
    · obtain ⟨row,found,closed⟩ := (Option.any_eq_true _ _).mp (ended id new)
      obtain ⟨named,known⟩ := safe.kept.rows id _ found
      refine ⟨isSome_iff_exists.mpr ⟨row.toNewOperation,named ▸ known⟩,?_⟩
      intro other again
      cases Option.some.inj (found.symm.trans again)
      simpa using closed
    · exact safe.kept.settled id old
  · rw [ground]
    intro id waiter mem
    obtain ⟨earlier,untold⟩ := waiters id _ mem
    obtain ⟨alive,known⟩ := safe.waiters id _ earlier
    refine ⟨?_,known⟩
    intro dead
    rcases dead_tell dead with told | before
    · exact untold told
    · exact alive before
  · rw [ground,threads]
    intro n thread found
    exact thread_tell (safe.threads n _ found) fun id mem => free id mem n _ found

theorem complete_safe (safe : Safe s) (ended : s.ended operationId = true)
    (free : NothingHeld s (.complete operationId)) : Safe (s.complete operationId) := by
  refine told_safe safe ?_ free rfl rfl ?_ safe.sent
  · intro id mem
    rw [List.mem_singleton.mp mem]
    exact ended
  · intro id waiter mem
    obtain ⟨other,earlier⟩ := erase_waiters (s := s.advance.cancelRetry operationId) _ id mem
    exact ⟨earlier,fun told => other (List.mem_singleton.mp told)⟩

theorem cancelOne_clears (text : String) : (s.cancelOne text operationId).waitersOf operationId = [] := by
  have cleared : ∀ s : ServiceState, (s.clearWaiters operationId).waitersOf operationId = [] := by
    intro s
    unfold waitersOf clearWaiters
    rw [AList.lookup_erase,Option.getD_none]
  change (waitersOf (if _ then _ else _) operationId) = []
  split
  · unfold failWaiters
    split
    · exact cleared _
    · exact cleared _
  · exact cleared _

theorem cancelled_waiters (ids : List String) :
    ∀ id, ∀ waiter ∈ (ids.foldl (cancelOne text) s).waitersOf id, waiter ∈ s.waitersOf id ∧ id ∉ ids := by
  induction ids generalizing s with
  | nil => exact fun id waiter mem => ⟨mem,nofun⟩
  | cons first rest ih =>
    intro id waiter mem
    obtain ⟨later,untold⟩ := ih id waiter mem
    refine ⟨(cancelOne_quiet _ first).waiters id waiter later,?_⟩
    intro told
    rcases List.mem_cons.mp told with rfl | more
    · rw [cancelOne_clears] at later
      cases later
    · exact untold more

theorem cancelMany_safe (safe : Safe s) (ended : ∀ id ∈ ids, s.ended id = true)
    (free : NothingHeld s (.cancelMany ids text)) : Safe (s.cancelMany ids text) := by
  unfold ServiceState.cancelMany
  split
  · exact safe
  · have quiet : Quiet s.advance (ids.eraseDups.foldl (cancelOne text) s.advance) :=
      quiet_foldl fun _ _ _ _ => cancelOne_quiet _ _
    refine told_safe safe ended free ?_ quiet.threads ?_ (quiet.sent safe.sent)
    · have ground := quiet.ground
      generalize ids.eraseDups.foldl (cancelOne text) s.advance = cancelled at ground
      injection ground with now token operations origins settled
      simp only [ServiceState.ground,settle,Ground.tell,now,token,operations,origins,settled]
      rfl
    · intro id waiter mem
      obtain ⟨earlier,untold⟩ := cancelled_waiters _ id _ mem
      exact ⟨earlier,fun told => untold (List.mem_eraseDups.mpr told)⟩

theorem notifyAll_quiet (groups : List (String × List Waiter)) :
    Quiet s (groups.foldl (fun s group => group.2.foldl (notify group.1 text) s) s) :=
  quiet_foldl fun _ group _ _ => quiet_foldl fun _ waiter _ _ => notify_quiet group.1 _ waiter

theorem rowsOf_daemon (safe : Safe s) (mem : operationId ∈ s.rowsOf daemonId) :
    ∃ origin, s.origins.lookup operationId = some origin ∧ origin.daemonId = daemonId := by
  obtain ⟨row,selected,rfl⟩ := List.mem_map.mp mem
  obtain ⟨_,found,passes⟩ := mem_select selected
  exact ⟨row.toNewOperation,(safe.kept.rows _ _ found).2,of_decide_eq_true passes⟩

theorem cancelDaemon_safe (safe : Safe s) (text : String) (ended : ∀ id ∈ s.rowsOf daemonId, s.ended id = true)
    (free : NothingHeld s (.cancelDaemon daemonId text)) :
    Safe ((s.cancelDaemon daemonId text).settle (s.rowsOf daemonId)) := by
  have cancelled : Quiet s.advance {s.advance with
      retriesByOperation := keep (fun _ attempt => attempt.operation.daemonId ≠ daemonId) s.retriesByOperation} :=
    ⟨rfl,rfl,fun _ _ => id,id⟩
  have quiet : Quiet s.advance (((entries s.waitersByOperation).filter fun entry =>
      entry.2.any fun waiter => waiter.operation.daemonId = daemonId).foldl
        (fun s entry => entry.2.foldl (notify entry.1 text) s)
        {s.advance with retriesByOperation := keep (fun _ attempt => attempt.operation.daemonId ≠ daemonId) _}) :=
    cancelled.trans (notifyAll_quiet _)
  refine told_safe safe ended free ?_ quiet.threads ?_ (quiet.sent safe.sent)
  · have ground := quiet.ground
    unfold ServiceState.cancelDaemon
    dsimp only
    generalize List.foldl _ _ _ = notified at ground ⊢
    injection ground with now token operations origins settled
    simp only [ServiceState.ground,settle,Ground.tell,now,token,operations,origins,settled]
    rfl
  · intro id waiter mem
    have mem : waiter ∈ ((keep (fun _ waiters => !waiters.any fun waiter => waiter.operation.daemonId = daemonId)
      s.waitersByOperation).lookup id).getD [] := mem
    cases found : (keep (fun _ waiters => !waiters.any fun waiter => waiter.operation.daemonId = daemonId)
        s.waitersByOperation).lookup id with
    | none => rw [found] at mem; cases mem
    | some waiters =>
      rw [found,getD_some] at mem
      obtain ⟨stored,passes⟩ := keep_lookup found
      have earlier : waiter ∈ s.waitersOf id := by
        rw [waitersOf,stored,getD_some]
        exact mem
      refine ⟨earlier,?_⟩
      intro told
      -- A waiter keeps the daemon of its operation, and this group has none of the daemon.
      obtain ⟨_,created,ofDaemon⟩ := rowsOf_daemon safe told
      obtain ⟨_,again,brief⟩ := (safe.waiters id _ earlier).known
      cases Option.some.inj (created.symm.trans again)
      rw [Bool.not_eq_true',List.any_eq_false] at passes
      refine passes _ mem (decide_eq_true ?_)
      rw [brief]
      exact ofDaemon

end Told

section Steps
theorem fresh_safe : Safe freshService := by
  refine ⟨⟨?_,?_⟩,?_,?_,?_⟩ <;> simp [freshService,ServiceState.ground,waitersOf,DeliveredInTime]

theorem report_succeeds :
    Succeeds operations ((operations.claimPreparedOperationReport now report.operationId daemonId).1.finishPreparedOperation
      now report.operationId report).1 :=
  ((claim_updates now).trans (finish_updates now)).succeeds

theorem service_step (safe : Safe s) (free : NothingHeld s action) (step : serviceStep validControlId s action = some next) :
    Safe next := by
  have counted : Safe {s with calls := s.calls + 1} := {safe with}
  cases action with
  | prepare client operation => cases step; exact call_safe safe (Nat.le_refl _)
  | prepareServer operation =>
    obtain ⟨_,rfl⟩ := guard_parts step
    exact call_safe safe (Nat.le_refl _)
  | restore daemon =>
    simp only [serviceStep] at step
    split at step <;> cases step
    · exact safe
    · exact call_safe safe (Nat.le_refl _)
  | resumeForClient client operationId =>
    cases step
    exact readActive_safe counted
  | sendReadyToClient client accountId initialSnapshot =>
    simp only [serviceStep] at step
    split at step <;> cases step
    · exact safe
    · exact setThread_safe counted (Nat.le_refl _)
  | installed daemon operationId ok error =>
    simp only [serviceStep] at step
    split at step <;> cases step
    · exact safe
    · exact call_safe safe True.intro
  | complete operationId =>
    obtain ⟨ended,rfl⟩ := guard_parts step
    exact complete_safe safe ended free
  | cancelMany ids text =>
    obtain ⟨ended,rfl⟩ := guard_parts step
    exact cancelMany_safe safe (List.all_eq_true.mp ended) free
  | cancelDaemon daemonId text =>
    obtain ⟨ended,rfl⟩ := guard_parts step
    exact cancelDaemon_safe safe _ (List.all_eq_true.mp ended) free
  | removeClient client => cases step; exact removeClient_quiet.safe safe
  | shutdown => cases step; exact shutdown_quiet.safe safe
  | retryFires operationId =>
    simp only [serviceStep] at step
    split at step
    · obtain ⟨_,rfl⟩ := guard_parts step
      exact call_safe {safe with} True.intro
    · cases step
  | waiterFires operationId client =>
    obtain ⟨_,rfl⟩ := guard_parts step
    exact waiterTimeout_quiet.safe safe
  | admission n rejection =>
    simp only [serviceStep] at step
    split at step
    · rename_i found
      obtain ⟨fresh,rfl⟩ := guard_parts step
      exact admit_safe safe (Option.isNone_iff_eq_none.mp fresh) (safe.threads n _ found)
    · cases step
  | query n =>
    obtain ⟨thread,found,asked⟩ := bind_eq_some_iff.mp step
    exact query_safe safe found asked
  | resume n =>
    obtain ⟨thread,found,resumed⟩ := bind_eq_some_iff.mp step
    exact resume_safe safe found resumed
  | fail n =>
    obtain ⟨_,found,failed⟩ := bind_eq_some_iff.mp step
    exact fail_safe safe failed
  | report daemonId report =>
    simp only [serviceStep] at step
    split at step <;> cases step
    · exact statement_safe safe report_succeeds
    · exact safe
  | exit operationId taskId sessionId exitCode =>
    cases step
    exact statement_safe safe (finishFromExit_updates _).succeeds
  | convergenceFailed operationId daemonId error =>
    cases step
    exact statement_safe safe (fail_updates _).succeeds
  | removeTarget accountId daemonId kind targetId =>
    cases step
    exact statement_safe safe expireByTarget_updates.succeeds
  | removeDevice daemonId =>
    simp only [serviceStep] at step
    split at step <;> cases step
    rename_i device _
    have expired := statement_safe safe (expireByDaemon_updates device.accountId daemonId s.now).succeeds
    exact {expired with}
  | enroll daemonId accountId =>
    obtain ⟨_,rfl⟩ := guard_parts step
    exact {safe with}
  | connect | disconnect => cases step; exact {safe with}
  | wait duration =>
    cases step
    have onward : Onward s.ground {s.ground with now := s.now + duration} := by
      refine ⟨Nat.le_add_right _ _,Nat.le_refl _,fun _ _ => id,?_⟩
      rintro id ⟨mem,origin,found,early⟩
      exact ⟨mem,origin,found,Nat.lt_of_le_of_lt (Nat.le_add_right _ _) early⟩
    exact safe_onward safe onward ⟨safe.kept.rows,safe.kept.settled⟩ rfl (fun _ _ => .inl) safe.sent

end Steps

-- Once the service knows that an operation has ended, nobody is given it to run.
theorem delivered_in_time (validControlId : String → Bool) (actions : List ServiceAction)
    (free : (serviceMachine validControlId).Along NothingHeld freshService actions) :
    (serviceMachine validControlId).Throughout DeliveredInTime freshService actions :=
  throughout_of_along (fun _ safe => safe.sent) (fun _ _ _ safe free step => service_step safe free step) fresh_safe free

section Runs

def tells : ServiceAction → Bool
  | .complete _ | .cancelMany _ _ | .cancelDaemon _ _ => true
  | _ => false

theorem untold_free (untold : ∀ action ∈ actions, tells action = false) :
    (serviceMachine validControlId).Along NothingHeld s actions := by
  refine along_of_all ?_
  intro action mem s
  cases action with
  | complete | cancelMany | cancelDaemon => exact absurd (untold _ mem) nofun
  | _ => exact fun _ none => nomatch none

def terminalOperation : NewOperation where
  operationId := "operation"
  accountId := "account"
  daemonId := "daemon"
  kind := .sessionCreate
  targetId := some "task"
  targetVersion := some 5
  frame := [1]
  metadata := .object [("initiator",.text "server"),("taskId",.text "task"),("sessionId",.text "session")]
  expiresAt := 60000

def connection : Daemon := ⟨"daemon",0,"account"⟩

def dispatched : List ServiceAction :=
  [.enroll "daemon" "account",.connect "daemon" "account",.prepareServer terminalOperation,.query 0,.query 0,.resume 0,
    .resume 0,.admission 0 none,.resume 0,.resume 0]

def acknowledged : List ServiceAction := [.installed connection "operation" true none,.query 1,.resume 1]

def reported : ServiceAction :=
  .report "daemon" ⟨"operation",true,some "task",some "session",none,none,none,some [2]⟩

def cameBack : List ServiceAction :=
  [.sendReadyToClient 7 "account" true,.query 2,.resume 2,.installed connection "operation" true none,.query 3,.resume 3]

theorem delivered_in_time_completed : (serviceMachine fun _ => true).Throughout DeliveredInTime freshService
        ((dispatched ++ acknowledged ++ [reported]) ++ .complete "operation" :: cameBack) ∧
      ((serviceMachine fun _ => true).run freshService
        ((dispatched ++ acknowledged ++ [reported]) ++ .complete "operation" :: cameBack)).map (fun s =>
          s.sent.filterMap fun entry => entry.message.delivers) = some ["operation"] := by
  refine ⟨delivered_in_time _ _ ?_,by decide +kernel⟩
  have idle : ((serviceMachine fun _ => true).run freshService (dispatched ++ acknowledged ++ [reported])).map (fun s =>
      s.threads.entries.length) = some 0 := by decide +kernel
  obtain ⟨s,ran,idle⟩ := map_eq_some_iff.mp idle
  refine along_append ran (untold_free (by decide)) ⟨?_,fun _ _ => untold_free (by decide)⟩
  intro operationId _ n thread found
  have none : s.threads = ∅ := AList.ext (List.eq_nil_of_length_eq_zero idle)
  rw [none] at found
  cases found

-- The task is removed after the acknowledgement, before the database's answer is handled.
def removedMeanwhile : List ServiceAction :=
  dispatched ++ [.installed connection "operation" true none,.query 1,
    .removeTarget "account" "daemon" .sessionCreate "task",.cancelMany ["operation"] "任务已删除，session.create 已取消",
    .resume 1]

theorem executed_after_removal :
    ¬ (serviceMachine fun _ => true).Throughout DeliveredInTime freshService removedMeanwhile := by
  intro all
  have sent : ((serviceMachine fun _ => true).run freshService removedMeanwhile).map (fun s =>
      s.sent.any Sent.late) = some true := by decide +kernel
  obtain ⟨s,ran,sent⟩ := map_eq_some_iff.mp sent
  obtain ⟨entry,mem,late⟩ := List.any_eq_true.mp sent
  rw [throughout_last all ran entry mem] at late
  cases late

end Runs

end Coflux.Server
