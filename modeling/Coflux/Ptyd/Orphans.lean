import Coflux.Foundation.Machine
import Coflux.Ptyd.Session

namespace Coflux.Ptyd
open FiniteMap StepMachine

-- A request keeps the session it has looked up, so that a session can outlive its place in the
-- table. What openpty, the session file and fork give are inputs.

-- Remove finds that nothing runs, takes the PTY apart, and, still with write_lock, takes the id out
-- of the table.
inductive CallStage where
  | spawn
  | kill
  | remove
  | teardown
  | forget
  deriving DecidableEq

structure SessionCall where
  sessionId : String
  serial : Nat
  stage : CallStage

structure Session where
  id : String
  inner : SessionInner

-- Running are the sessions whose process has not exited.
structure Host where
  table : Table String Nat
  sessions : Table Nat Session
  calls : Table Nat SessionCall
  running : List Nat

def Host.start : Host := ⟨∅,∅,∅,[]⟩

inductive HostAction where
  | «open» (serial : Nat) (sessionId : String) (made : Option (SessionFile × PtyPair)) (now : Nat)
  | call (n : Nat) (sessionId : String) (stage : CallStage)
  | proceed (n : Nat) (forked : Option Int) (now : Nat)
  | ends (serial : Nat)
  | reap (serial : Nat) (exitCode : Int)

namespace Host

section
variable (s : Host) (serial : Nat)

def «open» (sessionId : String) (now : Nat) : Option (SessionFile × PtyPair) → Host
  | some (file,pair) =>
    if sessionId.isEmpty ∨ (s.table.lookup sessionId).isSome ∨ size s.table ≥ ptydMaxLiveSessions then s
    else {s with
      table := s.table.insert sessionId serial
      sessions := s.sessions.insert serial ⟨sessionId,.opened file pair now⟩}
  | none => s

def put (session : Session) (inner : SessionInner) : Host :=
  {s with sessions := s.sessions.insert serial {session with inner := inner}}

def spawn (session : Session) (now : Nat) : Option Int → Host
  | some pid =>
    if session.inner.pid.isSome ∨ session.inner.slave.isNone then s
    else {s.put serial session (session.inner.spawned pid now) with running := serial :: s.running}
  | none => s

def free : Bool :=
  (entries s.calls).all fun entry => entry.2.serial ≠ serial || entry.2.stage ≠ .forget

end

def proceed (s : Host) (n : Nat) (forked : Option Int) (now : Nat) (call : SessionCall) (session : Session) : Option Host :=
  let done := {s with calls := s.calls.erase n}
  match call.stage with
  | .spawn => some (done.spawn call.serial session now forked)
  | .kill => some (done.put call.serial session session.inner.kill)
  | .remove =>
    if session.inner.pid.isSome ∧ session.inner.exit = none then some done
    else some {s with calls := s.calls.insert n {call with stage := .teardown}}
  | .teardown =>
    if s.free call.serial then
      some {s.put call.serial session session.inner.removed with
        calls := s.calls.insert n {call with stage := .forget}}
    else none
  | .forget => some {done with table := s.table.erase call.sessionId}

end Host

-- Every Open makes a new session, whatever its id. The reader thread waits for the process and
-- records its exit.
def hostStep (s : Host) : HostAction → Option Host
  | .«open» serial sessionId made now =>
    if (s.sessions.lookup serial).isNone then some (s.open serial sessionId now made) else none
  | .call n sessionId stage =>
    if (s.calls.lookup n).isSome ∨ stage = .teardown ∨ stage = .forget then none
    else (s.table.lookup sessionId).map fun serial => {s with calls := s.calls.insert n ⟨sessionId,serial,stage⟩}
  | .proceed n forked now =>
    (s.calls.lookup n).bind fun call => (s.sessions.lookup call.serial).bind (s.proceed n forked now call)
  | .ends serial => some {s with running := s.running.filter (· ≠ serial)}
  | .reap serial exitCode =>
    (s.sessions.lookup serial).bind fun session =>
      if serial ∈ s.running ∨ session.inner.pid.isNone then none
      else some (s.put serial session {session.inner with exit := some exitCode})

def hostMachine : Machine Host HostAction := ⟨hostStep⟩

abbrev Host.Reachable (s : Host) (serial : Nat) : Prop :=
  ∃ session ∈ s.sessions.lookup serial, s.table.lookup session.id = some serial ∧ session.inner.master.isSome

abbrev NoOrphan (s : Host) : Prop := ∀ serial ∈ s.running, s.Reachable serial

def HostAction.proceeds : HostAction → Option Nat
  | .proceed n _ _ => some n
  | _ => none

abbrev Undisturbed (s : Host) (action : HostAction) : Prop :=
  (∀ after ∈ hostStep s action, ∀ serial ∈ after.running, serial ∈ s.running ∨ s.Reachable serial) ∧
    ∀ n ∈ action.proceeds, ∀ call ∈ s.calls.lookup n, (call.stage = .teardown → call.serial ∉ s.running) ∧
        (call.stage = .forget → ∀ serial ∈ s.running, ∀ session ∈ s.sessions.lookup serial, session.id ≠ call.sessionId)

instance : Decidable (Undisturbed s action) := inferInstanceAs (Decidable (_ ∧ _))

theorem put_reachable {s : Host} (found : s.sessions.lookup serial = some session) (same : new.master = session.inner.master) :
    (s.put serial session new).Reachable other ↔ s.Reachable other := by
  by_cases own : other = serial
  · subst own
    simp [Host.Reachable,Host.put,found,same]
  · simp [Host.Reachable,Host.put,AList.lookup_insert_ne own]

section
variable {s next : Host} (calm : NoOrphan s)
include calm

-- All but the last two sections of a Remove leave what is in the table as it was.
theorem kept_calm (kept : ∀ serial, next.Reachable serial ↔ s.Reachable serial) (rest : P) :
    NoOrphan next ↔ (∀ serial ∈ next.running, serial ∈ s.running ∨ s.Reachable serial) ∧ P := by
  constructor
  · intro all
    exact ⟨fun serial runs => .inr ((kept serial).mp (all serial runs)),rest⟩
  · intro fine serial runs
    rcases fine.1 serial runs with before | there
    · exact (kept serial).mpr (calm serial before)
    · exact (kept serial).mpr there

theorem open_calm (fresh : s.sessions.lookup serial = none) : NoOrphan (s.open serial sessionId now made) := by
  unfold Host.open
  split
  · split
    · exact calm
    · next free =>
      simp only [not_or] at free
      intro other runs
      obtain ⟨session,found,there,able⟩ := calm _ runs
      have older : other ≠ serial := by
        rintro rfl
        exact nomatch fresh.symm.trans found
      have named : session.id ≠ sessionId := by
        intro same
        exact free.2.1 (same ▸ there ▸ rfl)
      exact ⟨session,by simpa [AList.lookup_insert_ne older] using found,by simpa [AList.lookup_insert_ne named] using there,able⟩
  · exact calm

theorem teardown_calm : NoOrphan (s.put serial session session.inner.removed) ↔ serial ∉ s.running := by
  constructor
  · intro all runs
    obtain ⟨_,there,_,able⟩ := all serial runs
    simp only [Host.put,AList.lookup_insert,Option.mem_def,Option.some.injEq] at there
    subst there
    cases able
  · intro idle other runs
    have apart : other ≠ serial := fun same => idle (same ▸ runs)
    simpa [Host.Reachable,Host.put,AList.lookup_insert_ne apart] using calm other runs

theorem forget_calm : NoOrphan {s with table := s.table.erase sessionId} ↔
    ∀ serial ∈ s.running, ∀ session ∈ s.sessions.lookup serial, session.id ≠ sessionId := by
  constructor
  · rintro all serial runs session found rfl
    obtain ⟨_,same,there,_⟩ := all serial runs
    cases Option.some.inj (Eq.symm found |>.trans same)
    simp at there
  · intro apart serial runs
    obtain ⟨session,found,_,able⟩ := calm serial runs
    exact ⟨session,found,by rwa [AList.lookup_erase_ne (apart serial runs session found)],able⟩

theorem proceed_calm (found : s.sessions.lookup call.serial = some session)
    (step : s.proceed n forked now call session = some next) :
    NoOrphan next ↔ (∀ serial ∈ next.running, serial ∈ s.running ∨ s.Reachable serial) ∧
      (call.stage = .teardown → call.serial ∉ s.running) ∧
        (call.stage = .forget → ∀ serial ∈ s.running, ∀ session ∈ s.sessions.lookup serial, session.id ≠ call.sessionId) := by
  simp only [Host.proceed] at step
  cases stage : call.stage <;> simp only [stage] at step
  case spawn =>
    cases step
    refine kept_calm calm (fun _ => ?_) ⟨nofun,nofun⟩
    unfold Host.spawn
    split
    · split
      · exact Iff.rfl
      · exact put_reachable found rfl
    · exact Iff.rfl
  case kill =>
    cases step
    exact kept_calm calm (fun _ => put_reachable found rfl) ⟨nofun,nofun⟩
  case remove =>
    split at step <;> cases step <;> exact kept_calm calm (fun _ => Iff.rfl) ⟨nofun,nofun⟩
  case teardown =>
    obtain ⟨_,rfl⟩ := guard_parts step
    exact (teardown_calm calm).trans ⟨fun idle => ⟨fun _ => .inl,fun _ => idle,nofun⟩,fun fine => fine.2.1 rfl⟩
  case forget =>
    cases step
    exact (forget_calm calm).trans ⟨fun apart => ⟨fun _ => .inl,nofun,fun _ => apart⟩,fun fine => fine.2.2 rfl⟩

theorem hostStep_calm (step : hostStep s action = some next) : NoOrphan next ↔ Undisturbed s action := by
  simp only [Undisturbed,step,Option.mem_def,Option.some.injEq,forall_eq']
  cases action with
  | «open» serial sessionId made now =>
    obtain ⟨fresh,rfl⟩ := guard_parts step
    refine iff_of_true (open_calm calm (by simpa using fresh)) ⟨fun serial runs => .inl ?_,nofun⟩
    revert runs
    unfold Host.open
    split
    · split <;> exact id
    · exact id
  | call n sessionId stage =>
    simp only [hostStep,Option.ite_none_left_eq_some,Option.map_eq_some_iff] at step
    obtain ⟨_,serial,_,rfl⟩ := step
    exact kept_calm calm (fun _ => Iff.rfl) nofun
  | ends serial =>
    cases step
    exact kept_calm calm (fun _ => Iff.rfl) nofun
  | reap serial exitCode =>
    simp only [hostStep,Option.bind_eq_some_iff,Option.ite_none_left_eq_some,Option.some.injEq] at step
    obtain ⟨session,found,_,rfl⟩ := step
    exact kept_calm calm (fun _ => put_reachable found rfl) nofun
  | proceed n forked now =>
    obtain ⟨_,called,there⟩ := Option.bind_eq_some_iff.mp step
    obtain ⟨_,found,proceeded⟩ := Option.bind_eq_some_iff.mp there
    simpa [HostAction.proceeds,called] using proceed_calm calm found proceeded

end

def shellOpen (serial : Nat) : HostAction := .«open» serial "a" (some (.new 24 80 "",⟨4,5,"",by decide⟩)) 0

def shellSpawn : List HostAction := [.call 0 "a" .spawn,.proceed 0 (some 100) 0]

end Coflux.Ptyd
