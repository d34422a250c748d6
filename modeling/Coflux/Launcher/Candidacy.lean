import Coflux.Launcher.Manager

namespace Coflux.Launcher
open FiniteMap StepMachine

-- What a commit rests on: this process was started for this switch, it alone passed the checks, on
-- a connection accepted after its start and still open, and its own probation is over.
structure SoundCommit (config : Config) (record : Commit) (process : Process) (vouch : Vouch) (link : Link) : Prop where
  running : record.process = some process
  own : process.candidacy = some record.candidacy
  candidate : process.spec = record.spec
  vouched : record.vouch = some vouch
  sender : vouch.sender = some process.serial
  nonce : vouch.report.nonce = process.nonce
  takenOver : ∀ session ∈ vouch.report.live, session ∈ vouch.report.sessions
  port : vouch.report.gatewayPort.isSome = true
  gateway : vouch.report.gateway = .ok ()
  connected : record.link = some link
  accepted : process.serial < link.accepted
  probation : process.spawnedAt + config.probation ≤ record.time

-- No switch begins to the runtime of a process that has not been reaped yet.
def SwitchesApart (config : Config) (s : LauncherState) : LauncherAction → Prop
  | .switch runtimeId remote files => ∀ spec process, s.resolve config runtimeId remote files = .ok spec →
      s.child = some process → process.spec.id = spec.id →
      s.pendingIs spec.id = true ∨ spec.id = s.active.id ∧ s.pending = none
  | _ => True

structure Wiring where
  child : Option Process
  runningId : String
  startedAt : Nat
  spawnNonce : String
  nonces : List String
  links : Table Nat Link
  generations : Nat
  readies : Table Nat Ready

structure Health where
  pending : Option RuntimeSpec
  healthy : Bool
  generation : Option Nat
  vouch : Option Vouch
  links : Table Nat Link
  spawnNonce : String
  nonces : List String

structure Tenure where
  pending : Option RuntimeSpec
  child : Option Process
  (candidacy crashes failures : Nat)

structure Records where
  commits : List Commit
  rollbacks : List Rollback
  terminations : List Termination

structure Standing where
  fallback : Option RuntimeSpec
  (active builtin : RuntimeSpec)
  committed : List RuntimeSpec
  rollbacks : List Rollback

structure Phase where
  monitor : MonitorPhase
  child : Option Process
  (running healthy : Bool)
  (startedAt now : Nat)

namespace LauncherState

section
variable (s : LauncherState)

def wiring : Wiring :=
  ⟨s.child,s.runningId,s.startedAt,s.spawnNonce,s.nonces,s.links,s.generations,s.readies⟩

def health : Health :=
  ⟨s.pending,s.pendingHealthy,s.pendingConnectionGeneration,s.vouch,s.links,s.spawnNonce,s.nonces⟩

def tenure : Tenure := ⟨s.pending,s.child,s.candidacy,s.pendingCrashes,s.failures⟩

def records : Records := ⟨s.commits,s.rollbacks,s.terminations⟩

def standing : Standing := ⟨s.pendingFallback,s.active,s.builtin,s.committed,s.rollbacks⟩

def phase : Phase := ⟨s.monitor,s.child,s.pendingRunning,s.pendingHealthy,s.startedAt,s.now⟩

end

end LauncherState

open LauncherState (acceptReady childExited crashed currentSpec pendingIs runtimeConnected runtimeDisconnected spawnFailed)

def Told (nonces : List String) (link : Link) (report : Report) : Prop :=
  ∃ serial, link.sender = some serial ∧ nonces[serial]? = some report.nonce

structure TakenOver (report : Report) : Prop where
  sessions : ∀ session ∈ report.live, session ∈ report.sessions
  port : report.gatewayPort.isSome = true

def ReadySound (nonces : List String) (link : Link) : Ready → Prop
  | .listing report => Told nonces link report
  | .connecting report => Told nonces link report ∧ TakenOver report
  | .passed report => Told nonces link report ∧ TakenOver report ∧ report.gateway = .ok ()
  | .refused _ => True

structure Wired (w : Wiring) : Prop where
  process : ∀ process, w.child = some process → w.runningId = process.spec.id ∧ w.startedAt = process.spawnedAt ∧
    w.spawnNonce = process.nonce ∧ w.nonces[process.serial]? = some process.nonce
  distinct : w.nonces.Nodup
  links : ∀ generation link, w.links.lookup generation = some link → generation ≤ w.generations ∧
    ∀ serial, link.sender = some serial → serial < link.accepted
  threads : ∀ generation ready, w.readies.lookup generation = some ready →
    ∃ link, w.links.lookup generation = some link ∧ ReadySound w.nonces link ready

structure Vouched (h : Health) : Prop where
  idle : h.pending = none → h.healthy = false
  healthy : h.healthy = true → ∃ vouch link, h.vouch = some vouch ∧ h.generation = some vouch.generation ∧
    h.links.lookup vouch.generation = some link ∧ vouch.sender = link.sender ∧ vouch.report.nonce = h.spawnNonce ∧
    ReadySound h.nonces link (.passed vouch.report)

structure Founded (s : Standing) : Prop where
  active : s.fallback = none → s.active = s.builtin ∨ s.active ∈ s.committed
  fallback : ∀ spec, s.fallback = some spec → spec = s.builtin
  rollbacks : ∀ record ∈ s.rollbacks, record.target = record.builtin ∨ record.target ∈ s.committed

-- Between the two markers of a commit nothing has changed for the candidate.
structure Phased (config : Config) (p : Phase) : Prop where
  unstarted : p.monitor = .unstarted → p.child = none
  written : p.monitor = .activeWritten → p.running = true ∧ p.healthy = true ∧ p.startedAt + config.probation ≤ p.now

structure Launched (config : Config) (s : LauncherState) : Prop where
  wired : Wired s.wiring
  vouched : Vouched s.health
  founded : Founded s.standing
  phased : Phased config s.phase

-- A process that counts as the candidate's was started for it.
structure Own (t : Tenure) : Prop where
  process : ∀ spec process, t.pending = some spec → t.child = some process → process.spec.id = spec.id →
    process.candidacy = some t.candidacy ∧ process.spec = spec
  counted : t.crashes ≤ t.failures

structure Recorded (config : Config) (r : Records) : Prop where
  commits : ∀ record ∈ r.commits, ∃ process vouch link, SoundCommit config record process vouch link
  rollbacks : ∀ record ∈ r.rollbacks, maxPendingCrashes ≤ record.failures
  terminations : ∀ record ∈ r.terminations, ∃ process, record.process = some process ∧
    process.candidacy = some record.candidacy ∧ process.spawnedAt + config.probation ≤ record.time

structure Tended (config : Config) (s : LauncherState) : Prop where
  own : Own s.tenure
  recorded : Recorded config s.records

section Views
variable {s : LauncherState}

theorem crashed_wiring (own : Bool) (source reason : String) (write : Persisted) :
    (s.crashed own source reason write).wiring = s.wiring := by
  unfold crashed
  split <;> rfl

theorem spawnFailed_wiring : (s.spawnFailed error write).wiring = s.wiring := by
  unfold spawnFailed
  dsimp only
  split
  · exact crashed_wiring _ _ s!"cannot start: {error}" write
  · rfl

theorem nonces_mono {nonces : List String} {serial : Nat} (found : nonces[serial]? = some nonce) :
    (nonces ++ more)[serial]? = some nonce := by
  obtain ⟨bound,_⟩ := List.getElem?_eq_some_iff.mp found
  rw [List.getElem?_append_left bound]
  exact found

theorem told_mono (told : Told nonces link report) : Told (nonces ++ more) link report := by
  obtain ⟨serial,sender,found⟩ := told
  exact ⟨serial,sender,nonces_mono found⟩

theorem ready_mono (sound : ReadySound nonces link ready) : ReadySound (nonces ++ more) link ready := by
  cases ready with
  | listing report => exact told_mono sound
  | connecting | passed => exact ⟨told_mono sound.1,sound.2⟩
  | refused refusal => exact True.intro

theorem ready_announced (sound : ReadySound nonces link ready) : ReadySound nonces {link with announced := true} ready := by
  cases ready with
  | listing | connecting | passed => exact sound
  | refused refusal => exact True.intro

end Views

section Wiring
variable {s : LauncherState}

section
variable (wired : Wired s.wiring) (unused : nonce ∉ s.nonces) (free : s.child = none)
include wired unused free

theorem wired_prepare : Wired (s.prepareSpawn nonce).wiring := by
  constructor
  · intro process child
    have child : s.child = some process := child
    rw [free] at child
    cases child
  · refine List.nodup_append.mpr ⟨wired.distinct,List.nodup_singleton nonce,?_⟩
    intro one first two second same
    rw [List.mem_singleton.mp second] at same
    exact unused (same ▸ first)
  · exact wired.links
  · intro generation ready found
    obtain ⟨link,open_,sound⟩ := wired.threads _ _ found
    exact ⟨link,open_,ready_mono sound⟩

theorem wired_spawn : Wired (s.spawn nonce result write).wiring := by
  have prepared := wired_prepare wired unused free
  cases result with
  | ok _ =>
    refine {prepared with process := ?_}
    intro process child
    cases child
    refine ⟨rfl,rfl,rfl,?_⟩
    change (s.nonces ++ [nonce])[s.nonces.length]? = some nonce
    simp
  | error error =>
    change Wired ((s.prepareSpawn nonce).spawnFailed error write).wiring
    rw [spawnFailed_wiring]
    exact prepared

end

theorem wired_gone (wired : Wired s.wiring) : Wired {s.wiring with child := none} :=
  {wired with process := nofun}

theorem childExited_wiring : (s.childExited process write).wiring = {s.wiring with child := none} := by
  unfold childExited
  split
  · have same := crashed_wiring (s := {s with child := none}) (process.candidacy = some s.candidacy) s.runningId
      s.exitReason write
    exact same
  · rfl

section
variable (wired : Wired s.wiring)
include wired

theorem wired_reap : Wired (s.reap exited write).wiring := by
  unfold LauncherState.reap
  split
  · cases exited with
    | true =>
      have gone := wired_gone wired
      rw [← childExited_wiring] at gone
      exact gone
    | false => exact wired
  · exact wired

theorem wired_accept (started : ∀ serial, sender = some serial → serial < s.nonces.length) : Wired {s.wiring with
      generations := s.generations + 1
      links := s.links.insert (s.generations + 1) ⟨sender,s.nonces.length,false⟩} := by
  refine ⟨wired.process,wired.distinct,?_,?_⟩
  · intro generation link found
    rcases insert_lookup found with ⟨rfl,rfl⟩ | ⟨_,earlier⟩
    · exact ⟨Nat.le_refl _,started⟩
    · obtain ⟨bound,senders⟩ := wired.links _ _ earlier
      exact ⟨Nat.le_succ_of_le bound,senders⟩
  · intro generation ready found
    obtain ⟨link,open_,sound⟩ := wired.threads _ _ found
    have other : generation ≠ s.generations + 1 := by
      have bound := (wired.links _ _ open_).1
      change generation ≤ s.generations at bound
      omega
    exact ⟨link,(AList.lookup_insert_ne other).trans open_,sound⟩

theorem wired_connected (found : s.links.lookup generation = some link) :
    Wired {s.wiring with links := s.links.insert generation {link with announced := true}} := by
  refine ⟨wired.process,wired.distinct,?_,?_⟩
  · exact Each.insert wired.links (wired.links _ link found)
  · intro other ready thread
    obtain ⟨now,open_,sound⟩ := wired.threads _ _ thread
    by_cases same : other = generation
    · subst same
      cases Option.some.inj (found.symm.trans open_)
      exact ⟨_,AList.lookup_insert s.links,ready_announced sound⟩
    · exact ⟨now,(AList.lookup_insert_ne same).trans open_,sound⟩

theorem wired_disconnected (idle : s.readies.lookup generation = none) :
    Wired {s.wiring with links := s.links.erase generation} := by
  refine ⟨wired.process,wired.distinct,?_,?_⟩
  · exact Each.erase wired.links
  · intro other ready thread
    obtain ⟨link,open_,sound⟩ := wired.threads _ _ thread
    have different : other ≠ generation := by
      rintro rfl
      have thread : s.readies.lookup other = some ready := thread
      rw [idle] at thread
      cases thread
    exact ⟨link,(AList.lookup_erase_ne different).trans open_,sound⟩

theorem wired_thread (open_ : s.links.lookup generation = some link)
    (sound : ReadySound s.nonces link ready) : Wired {s.wiring with readies := s.readies.insert generation ready} := by
  exact {wired with threads := Each.insert wired.threads ⟨link,open_,sound⟩}

theorem wired_settled : Wired {s.wiring with readies := s.readies.erase generation} :=
  {wired with threads := Each.erase wired.threads}

theorem verify_told {link : Link} (tells : s.tells link.sender nonce = true)
    (decided : s.decideReady generation nonce = .verify floor) :
    ∃ serial, link.sender = some serial ∧ s.nonces[serial]? = some nonce := by
  unfold LauncherState.decideReady at decided
  dsimp only at decided
  split at decided
  · cases decided
  · rename_i running
    split at decided
    · cases decided
    · split at decided
      · cases decided
      · split at decided
        · cases decided
        · rename_i own
          obtain ⟨_,own⟩ := not_or.mp own
          have running : s.pendingRunning = true := Decidable.not_not.mp running
          obtain ⟨process,child⟩ := Option.isSome_iff_exists.mp (Bool.and_eq_true_iff.mp running).1
          obtain ⟨_,_,nonce',found⟩ := wired.process _ child
          have found : s.nonces[process.serial]? = some nonce :=
            found.trans (congrArg some (nonce'.symm.trans (Decidable.not_not.mp own).symm))
          refine ⟨process.serial,?_,found⟩
          have told := List.all_eq_true.mp tells process.serial
            (List.mem_range.mpr (List.getElem?_eq_some_iff.mp found).1)
          rw [found] at told
          simpa using told

end

theorem takeover_sound (told : Told nonces link report) {live : Except String (List String)} :
    ReadySound nonces link (takeoverCheck report live) := by
  unfold takeoverCheck
  split
  · exact True.intro
  · dsimp only
    split
    · exact True.intro
    · rename_i complete
      split
      · exact True.intro
      · rename_i port reported
        refine ⟨told,?_,Option.isSome_iff_exists.mpr ⟨port,reported⟩⟩
        intro session mem
        have nothing := List.filter_eq_nil_iff.mp (Decidable.not_not.mp complete) session mem
        simpa using nothing

theorem gateway_sound (told : Told nonces link report) (taken : TakenOver report) :
    ReadySound nonces link (gatewayCheck report gateway) := by
  cases gateway with
  | ok done => exact ⟨told,{taken with},rfl⟩
  | error error => exact True.intro

end Wiring

section Health
variable {s : LauncherState}

theorem unhealthy_vouched (unhealthy : h.healthy = false) : Vouched h := by
  refine ⟨fun _ => unhealthy,?_⟩
  intro healthy
  rw [unhealthy] at healthy
  cases healthy

section
variable (vouched : Vouched s.health)
include vouched

theorem crashed_vouched (own : Bool) : Vouched (s.crashed own source reason write).health := by
  unfold crashed
  split
  · exact unhealthy_vouched rfl
  · exact vouched

theorem prepare_unhealthy (nonce : String) : (s.prepareSpawn nonce).pendingHealthy = false := by
  change (if s.pendingIs s.currentSpec.id then false else s.pendingHealthy) = false
  cases pending : s.pending with
  | none =>
    have idle : s.pendingHealthy = false := vouched.idle pending
    rw [idle,ite_self]
  | some spec =>
    have current : s.pendingIs s.currentSpec.id = true := by
      simp [pendingIs,currentSpec,pending]
    rw [if_pos current]

theorem spawn_vouched (nonce : String) : Vouched (s.spawn nonce result write).health := by
  have prepared : Vouched (s.prepareSpawn nonce).health := unhealthy_vouched (prepare_unhealthy vouched nonce)
  cases result with
  | ok done => exact prepared
  | error error =>
    change Vouched ((s.prepareSpawn nonce).spawnFailed error write).health
    unfold spawnFailed
    dsimp only
    split
    · exact crashed_vouched prepared _
    · exact prepared

theorem reap_vouched : Vouched (s.reap exited write).health := by
  unfold LauncherState.reap
  split
  · rename_i process _
    cases exited with
    | true =>
      change Vouched (s.childExited process write).health
      unfold childExited
      split
      · exact crashed_vouched (s := {s with child := none}) vouched _
      · exact vouched
    | false => exact vouched
  · exact vouched

end

theorem accept_vouched (wired : Wired s.wiring) (vouched : Vouched s.health) :
    Vouched {s.health with links := s.links.insert (s.generations + 1) link} := by
  refine ⟨vouched.idle,?_⟩
  intro healthy
  obtain ⟨vouch,old,given,generation,open_,rest⟩ := vouched.healthy healthy
  have other : vouch.generation ≠ s.generations + 1 := by
    have bound := (wired.links _ _ open_).1
    change vouch.generation ≤ s.generations at bound
    omega
  exact ⟨vouch,old,given,generation,(AList.lookup_insert_ne other).trans open_,rest⟩

theorem connected_vouched (vouched : Vouched s.health) (found : s.links.lookup generation = some link) :
    Vouched {(s.runtimeConnected generation).health with
      links := s.links.insert generation {link with announced := true}} := by
  unfold runtimeConnected
  split
  · exact unhealthy_vouched rfl
  · refine ⟨vouched.idle,?_⟩
    intro healthy
    obtain ⟨vouch,old,given,of,open_,sender,nonce,sound⟩ := vouched.healthy healthy
    by_cases same : vouch.generation = generation
    · subst same
      cases Option.some.inj (found.symm.trans open_)
      exact ⟨vouch,_,given,of,AList.lookup_insert s.links,sender,nonce,ready_announced sound⟩
    · exact ⟨vouch,old,given,of,(AList.lookup_insert_ne same).trans open_,sender,nonce,sound⟩

theorem disconnected_vouched (vouched : Vouched s.health) :
    Vouched {(s.runtimeDisconnected generation).health with links := s.links.erase generation} := by
  unfold runtimeDisconnected
  split
  · exact unhealthy_vouched rfl
  · rename_i another
    refine ⟨vouched.idle,?_⟩
    intro healthy
    obtain ⟨vouch,link,given,of,open_,rest⟩ := vouched.healthy healthy
    have different : vouch.generation ≠ generation := by
      rintro rfl
      exact another of
    exact ⟨vouch,link,given,of,(AList.lookup_erase_ne different).trans open_,rest⟩

theorem accepted_vouched (wired : Wired s.wiring) (vouched : Vouched s.health)
    (checked : s.readies.lookup generation = some (.passed report)) : Vouched (s.acceptReady generation report).health := by
  unfold acceptReady
  split
  · rename_i current
    obtain ⟨running,connection,nonce,_⟩ := current
    constructor
    · intro none
      have none : s.pending = .none := none
      simp [LauncherState.pendingRunning,pendingIs,none] at running
    · intro _
      obtain ⟨link,open_,sound⟩ := wired.threads _ (.passed report) checked
      have open_ : s.links.lookup generation = some link := open_
      refine ⟨_,link,rfl,connection,open_,?_,nonce.symm,sound⟩
      dsimp only
      rw [open_,Option.bind_some]
  · exact vouched

theorem switch_vouched (vouched : Vouched s.health) (accepted : s.switch config runtimeId remote files = .ok next) :
    Vouched next.health := by
  obtain ⟨_,_,_,_,begun⟩ := switch_parts accepted
  rcases begin_cases begun with ⟨_,rfl⟩ | ⟨_,rfl⟩ | ⟨_,rfl⟩
  · exact vouched
  · exact vouched
  · exact unhealthy_vouched rfl

end Health

section Standing
variable {s : LauncherState}

section
variable (founded : Founded s.standing)
include founded

theorem fallback_founded :
    s.pendingFallback.getD s.active = s.builtin ∨ s.pendingFallback.getD s.active ∈ s.committed := by
  cases fallback : s.pendingFallback with
  | none => exact founded.active fallback
  | some spec => exact .inl (founded.fallback _ fallback)

theorem rollback_founded (source : String) :
    Founded (s.rollbackPending source reason write).standing := by
  have chosen := fallback_founded founded
  refine ⟨fun _ => chosen,nofun,?_⟩
  exact List.forall_mem_cons.mpr ⟨chosen,founded.rollbacks⟩

theorem crashed_founded (own : Bool) :
    Founded (s.crashed own source reason write).standing := by
  unfold crashed
  split
  · exact rollback_founded (s := s.countCrash own) founded _
  · exact founded

theorem spawn_founded : Founded (s.spawn nonce result write).standing := by
  cases result with
  | ok done => exact founded
  | error error =>
    change Founded ((s.prepareSpawn nonce).spawnFailed error write).standing
    unfold spawnFailed
    dsimp only
    split
    · exact crashed_founded (s := s.prepareSpawn nonce) founded _
    · exact founded

theorem reap_founded (write : Persisted) : Founded (s.reap exited write).standing := by
  unfold LauncherState.reap
  split
  · rename_i process _
    cases exited with
    | true =>
      change Founded (s.childExited process write).standing
      unfold childExited
      split
      · exact crashed_founded (s := {s with child := none}) founded _
      · exact founded
    | false => exact founded
  · exact founded

theorem commit_founded : Founded (s.commit spec).standing := by
  refine ⟨fun _ => .inr List.mem_cons_self,nofun,?_⟩
  intro record mem
  rcases founded.rollbacks record mem with builtin | committed
  · exact .inl builtin
  · exact .inr (List.mem_cons_of_mem spec committed)

theorem boot_founded (files : Except String Unit) :
    Founded (s.boot config builtin others files write).standing := by
  refine ⟨?_,?_,founded.rollbacks⟩
  · intro none
    have none : (s.recovered config builtin others files).map (fun _ => builtin) = .none := none
    refine .inl ?_
    change (s.recovered config builtin others files).getD builtin = builtin
    rw [Option.map_eq_none_iff.mp none,Option.getD_none]
  · intro spec some_
    have some_ : (s.recovered config builtin others files).map (fun _ => builtin) = some spec := some_
    obtain ⟨_,_,same⟩ := Option.map_eq_some_iff.mp some_
    exact same.symm

end

end Standing

section Launched
variable {s next : LauncherState}

structure SameProcess (s next : LauncherState) : Prop where
  wiring : next.wiring = s.wiring
  standing : next.standing = s.standing
  monitor : next.monitor = s.monitor
  child : next.child = s.child

section
variable (s : LauncherState) (generation : Nat)

theorem connected_same : SameProcess s (s.runtimeConnected generation) := by
  unfold runtimeConnected
  split <;> exact ⟨rfl,rfl,rfl,rfl⟩

theorem disconnected_same : SameProcess s (s.runtimeDisconnected generation) := by
  unfold runtimeDisconnected
  split <;> exact ⟨rfl,rfl,rfl,rfl⟩

theorem accepted_same (report : Report) : SameProcess s (s.acceptReady generation report) := by
  unfold acceptReady
  split <;> exact ⟨rfl,rfl,rfl,rfl⟩

end

theorem switch_same (accepted : s.switch config runtimeId remote files = .ok next) : SameProcess s next := by
  obtain ⟨_,_,_,_,begun⟩ := switch_parts accepted
  rcases begin_cases begun with ⟨_,rfl⟩ | ⟨_,rfl⟩ | ⟨_,rfl⟩
  · exact ⟨rfl,rfl,rfl,rfl⟩
  · exact ⟨rfl,rfl,rfl,rfl⟩
  · exact ⟨rfl,rfl,rfl,rfl⟩

theorem persistFloor_cases : (∃ spec marker, s.pending = some spec ∧
      s.persistFloor write = {({s with floorMarker := marker}.commit spec) with monitor := .observed}) ∨
    ∃ marker durable, s.persistFloor write =
      {s with floorMarker := marker,releaseFloorDurable := durable,monitor := .observed} := by
  unfold LauncherState.persistFloor
  split
  · rename_i spec candidate
    split
    · dsimp only
      split
      · exact .inl ⟨spec,_,candidate,rfl⟩
      · exact .inr ⟨_,false,rfl⟩
    · exact .inl ⟨spec,s.floorMarker,candidate,rfl⟩
  · exact .inr ⟨s.floorMarker,s.releaseFloorDurable,rfl⟩

theorem observe_cases : s.observe config write = {s with monitor := .observed} ∨
    (s.pendingRunning = true ∧ s.startedAt + config.probation ≤ s.now) ∧
      ((s.pendingHealthy = true ∧ ∃ spec, s.pending = some spec ∧ s.observe config write =
        {(s.writeActive spec.id write) with monitor := if write.ok then .activeWritten else .observed}) ∨
      s.observe config write = {s.terminate with monitor := .observed}) := by
  unfold LauncherState.observe
  split
  · rename_i spec candidate
    split
    · rename_i due
      split
      · rename_i healthy
        exact .inr ⟨due,.inl ⟨healthy,spec,candidate,rfl⟩⟩
      · split
        · exact .inl rfl
        · exact .inr ⟨due,.inr rfl⟩
    · exact .inl rfl
  · exact .inl rfl

theorem unlocked_phased (free : s.unlocked = true) (phased : Phased config s.phase) (monitor : next.monitor = s.monitor)
    (child : next.child = s.child) : Phased config next.phase := by
  constructor
  · intro unstarted
    have unstarted : next.monitor = .unstarted := unstarted
    change next.child = none
    rw [child]
    exact phased.unstarted (monitor.symm.trans unstarted)
  · intro written
    have written : next.monitor = .activeWritten := written
    rw [LauncherState.unlocked,monitor.symm.trans written] at free
    simp at free

theorem past_phased (started : p.monitor ≠ .unstarted) (whole : p.monitor ≠ .activeWritten) : Phased config p :=
  ⟨fun unstarted => absurd unstarted started,fun written => absurd written whole⟩

section
variable (launched : Launched config s)
include launched

theorem spawn_launched (free : s.child = none) (unused : nonce ∉ s.nonces) {write : Persisted} :
    Launched config {(s.spawn nonce result write) with monitor := .asleep} where
  wired := wired_spawn launched.wired unused free
  vouched := spawn_vouched launched.vouched nonce
  founded := spawn_founded launched.founded
  phased := past_phased nofun nofun

theorem respawn_launched (unused : nonce ∉ s.nonces)
    {write : Persisted} : Launched config (s.respawn nonce result write) := by
  unfold LauncherState.respawn
  split
  · rename_i due
    exact spawn_launched launched (Option.isNone_iff_eq_none.mp due.1) unused
  · exact {launched with phased := past_phased nofun nofun}

theorem reap_launched {exited : Bool} : Launched config (s.reap exited write) where
  wired := wired_reap launched.wired
  vouched := reap_vouched launched.vouched
  founded := reap_founded launched.founded write
  phased := by
    have reaped : (s.reap exited write).monitor = .reaped := by
      unfold LauncherState.reap
      split <;> rfl
    refine past_phased ?_ ?_
    · change (s.reap exited write).monitor ≠ _
      rw [reaped]
      nofun
    · change (s.reap exited write).monitor ≠ _
      rw [reaped]
      nofun

theorem observe_launched {write : Persisted} : Launched config (s.observe config write) := by
  rcases observe_cases with same | ⟨⟨running,due⟩,⟨healthy,spec,_,same⟩ | same⟩
  · rw [same]
    exact {launched with phased := past_phased nofun nofun}
  · rw [same]
    refine ⟨launched.wired,launched.vouched,launched.founded,?_,fun _ => ⟨running,healthy,due⟩⟩
    intro unstarted
    have unstarted : (if write.ok then MonitorPhase.activeWritten else .observed) = .unstarted := unstarted
    split at unstarted <;> cases unstarted
  · rw [same]
    exact {launched with phased := past_phased nofun nofun}

theorem persistFloor_launched {write : Persisted} : Launched config (s.persistFloor write) := by
  rcases persistFloor_cases with ⟨_,marker,_,same⟩ | ⟨_,_,same⟩
  · rw [same]
    exact ⟨launched.wired,unhealthy_vouched rfl,commit_founded launched.founded,past_phased nofun nofun⟩
  · rw [same]
    exact {launched with phased := past_phased nofun nofun}

theorem boot_launched {write : Persisted} : Launched config (s.boot config builtin others files write) where
  wired := ⟨nofun,launched.wired.distinct,nofun,nofun⟩
  vouched := unhealthy_vouched rfl
  founded := boot_founded launched.founded files
  phased := ⟨fun _ => rfl,nofun⟩

theorem launched_step (move : LauncherMove config s action next) : Launched config next := by
  obtain ⟨wired,vouched,founded,phased⟩ := launched
  have launched : Launched config s := ⟨wired,vouched,founded,phased⟩
  cases move with
  | boot _ _ => exact boot_launched launched
  | @launch nonce result active rollback unstarted unused _ =>
    have written : Launched config (s.writeActive s.currentSpec.id active) := ⟨wired,vouched,founded,phased⟩
    exact spawn_launched written (phased.unstarted unstarted) unused
  | reap _ => exact reap_launched launched
  | observe _ => exact observe_launched launched
  | persistFloor _ => exact persistFloor_launched launched
  | respawn _ unused _ => exact respawn_launched launched unused
  | accept started => exact ⟨wired_accept wired started,accept_vouched wired vouched,founded,phased⟩
  | @connected generation link free found =>
    have same := connected_same s generation
    refine ⟨?_,connected_vouched vouched found,?_,unlocked_phased free phased same.monitor same.child⟩
    · change Wired {(s.runtimeConnected generation).wiring with links := _}
      rw [same.wiring]
      exact wired_connected wired found
    · change Founded (s.runtimeConnected generation).standing
      rw [same.standing]
      exact founded
  | @disconnected generation link free found idle =>
    have same := disconnected_same s generation
    refine ⟨?_,disconnected_vouched vouched,?_,unlocked_phased free phased same.monitor same.child⟩
    · change Wired {(s.runtimeDisconnected generation).wiring with links := _}
      rw [same.wiring]
      exact wired_disconnected wired idle
    · change Founded (s.runtimeDisconnected generation).standing
      rw [same.standing]
      exact founded
  | answered | denied => exact launched
  | refused found _ => exact ⟨wired_thread wired found True.intro,vouched,founded,phased⟩
  | @verify generation link nonce floor sessions gatewayPort free found tells decided =>
    exact ⟨wired_thread wired found (verify_told wired tells decided),vouched,founded,phased⟩
  | @listed generation report live asked =>
    obtain ⟨link,open_,told⟩ := wired.threads _ _ asked
    exact ⟨wired_thread wired open_ (takeover_sound told),vouched,founded,phased⟩
  | @reached generation report gateway asked =>
    obtain ⟨_,open_,told,taken⟩ := wired.threads _ _ asked
    exact ⟨wired_thread wired open_ (gateway_sound told taken),vouched,founded,phased⟩
  | @passed generation report free checked =>
    have same := accepted_same s generation report
    refine ⟨?_,accepted_vouched wired vouched checked,?_,unlocked_phased free phased same.monitor same.child⟩
    · change Wired {(s.acceptReady generation report).wiring with readies := _}
      rw [same.wiring]
      exact wired_settled wired
    · change Founded (s.acceptReady generation report).standing
      rw [same.standing]
      exact founded
  | noted free checked => exact ⟨wired_settled wired,vouched,founded,phased⟩
  | switched free accepted =>
    have same := switch_same accepted
    refine ⟨?_,switch_vouched vouched accepted,?_,unlocked_phased free phased same.monitor same.child⟩
    · rw [same.wiring]
      exact wired
    · rw [same.standing]
      exact founded
  | registered | shutdown | crash | damageFloor | damageActive => exact ⟨wired,vouched,founded,phased⟩
  | wait =>
    refine ⟨wired,vouched,founded,phased.unstarted,?_⟩
    intro written
    obtain ⟨running,healthy,due⟩ := phased.written written
    exact ⟨running,healthy,Nat.le_add_right_of_le due⟩

end

end Launched

section Tended
structure Runs (s : LauncherState) (spec : RuntimeSpec) (process : Process) : Prop where
  pending : s.pending = some spec
  child : s.child = some process
  own : process.candidacy = some s.candidacy
  candidate : process.spec = spec
  since : s.startedAt = process.spawnedAt
  nonce : s.spawnNonce = process.nonce
  drawn : s.nonces[process.serial]? = some process.nonce

theorem running_own (wired : Wired s.wiring) (own : Own s.tenure) (child : s.child = some process)
    (counts : s.pendingIs s.runningId = true) : ∃ spec, Runs s spec process := by
  obtain ⟨spec,pending,same⟩ := (Option.any_eq_true _ _).mp counts
  have same : spec.id = s.runningId := of_decide_eq_true same
  obtain ⟨running,since,nonce,drawn⟩ := wired.process _ child
  obtain ⟨mine,candidate⟩ := own.process _ _ pending child (running.symm.trans same.symm)
  exact ⟨spec,pending,child,mine,candidate,since,nonce,drawn⟩

theorem pendingRunning_own (wired : Wired s.wiring) (own : Own s.tenure) (running : s.pendingRunning = true) :
    ∃ spec process, Runs s spec process := by
  obtain ⟨some_,counts⟩ := Bool.and_eq_true_iff.mp running
  obtain ⟨process,child⟩ := Option.isSome_iff_exists.mp some_
  obtain ⟨spec,runs⟩ := running_own wired own child counts
  exact ⟨spec,process,runs⟩

theorem vouched_sender (wired : Wired s.wiring) (runs : Runs s spec process) (told : Told s.nonces link report)
    (nonce : report.nonce = s.spawnNonce) : link.sender = some process.serial := by
  obtain ⟨_,sender,drawn⟩ := told
  rw [nonce,runs.nonce] at drawn
  obtain ⟨bound,_⟩ := List.getElem?_eq_some_iff.mp drawn
  rw [sender,(List.getElem?_inj bound wired.distinct).mp (drawn.trans runs.drawn.symm)]

theorem commit_sound (launched : Launched config s) (own : Own s.tenure) (written : s.monitor = .activeWritten)
    (pending : s.pending = some spec) : ∃ process vouch link, SoundCommit config
      ⟨spec,s.candidacy,s.child,s.vouch,s.vouch.bind (fun vouch => s.links.lookup vouch.generation),s.now⟩
      process vouch link := by
  obtain ⟨running,healthy,due⟩ := launched.phased.written written
  obtain ⟨_,process,runs⟩ := pendingRunning_own launched.wired own running
  cases Option.some.inj (pending.symm.trans runs.pending)
  obtain ⟨vouch,link,given,_,open_,sender,nonce,told,taken,gateway⟩ := launched.vouched.healthy healthy
  have from_ := vouched_sender launched.wired runs told nonce
  have given : s.vouch = some vouch := given
  have since : s.startedAt + config.probation ≤ s.now := due
  refine ⟨process,vouch,link,?_⟩
  constructor
  · exact runs.child
  · exact runs.own
  · exact runs.candidate
  · exact given
  · exact sender.trans from_
  · exact nonce.trans runs.nonce
  · exact taken.sessions
  · exact taken.port
  · exact gateway
  · dsimp only
    rw [given,Option.bind_some]
    exact open_
  · exact (launched.wired.links _ _ open_).2 process.serial from_
  · dsimp only
    rw [← runs.since]
    exact since

theorem persistFloor_tended (launched : Launched config s) (tended : Tended config s) (written : s.monitor = .activeWritten)
    : Tended config (s.persistFloor write) := by
  rcases persistFloor_cases with ⟨_,marker,pending,same⟩ | ⟨_,_,same⟩
  · rw [same]
    refine ⟨⟨nofun,Nat.zero_le _⟩,?_,tended.recorded.rollbacks,tended.recorded.terminations⟩
    intro record mem
    rcases List.mem_cons.mp mem with rfl | earlier
    · have sound := commit_sound launched tended.own written pending
      exact sound
    · exact tended.recorded.commits _ earlier
  · rw [same]
    exact {tended with}

theorem observe_tended (launched : Launched config s) (tended : Tended config s) :
    Tended config (s.observe config write) := by
  rcases observe_cases with same | ⟨⟨running,due⟩,⟨_,spec,_,same⟩ | same⟩
  · rw [same]
    exact {tended with}
  · rw [same]
    exact {tended with}
  · rw [same]
    refine ⟨tended.own,tended.recorded.commits,tended.recorded.rollbacks,?_⟩
    intro record mem
    rcases List.mem_cons.mp mem with rfl | earlier
    · obtain ⟨_,process,runs⟩ := pendingRunning_own launched.wired tended.own running
      exact ⟨process,runs.child,runs.own,runs.since ▸ due⟩
    · exact tended.recorded.terminations _ earlier

-- The count of the launcher is never ahead of the failures of the candidate's own processes.
theorem crashed_tended (tended : Tended config s) (source reason : String) (write : Persisted) :
    Tended config (s.crashed true source reason write) := by
  have counted : s.pendingCrashes ≤ s.failures := tended.own.counted
  unfold crashed
  split
  · rename_i spent
    have spent : maxPendingCrashes ≤ s.pendingCrashes + 1 := spent
    refine ⟨⟨nofun,Nat.zero_le _⟩,tended.recorded.commits,?_,tended.recorded.terminations⟩
    exact List.forall_mem_cons.mpr ⟨Nat.le_trans spent (Nat.succ_le_succ counted),tended.recorded.rollbacks⟩
  · exact ⟨⟨tended.own.process,Nat.succ_le_succ counted⟩,tended.recorded⟩

theorem spawn_tended (tended : Tended config s) :
    Tended config {(s.spawn nonce result write) with monitor := .asleep} := by
  cases result with
  | ok done =>
    refine ⟨⟨?_,tended.own.counted⟩,tended.recorded⟩
    intro spec process pending child same
    have pending : s.pending = some spec := pending
    cases child
    have current : s.currentSpec = spec := by rw [currentSpec,pending,Option.getD_some]
    refine ⟨?_,current⟩
    have is_ : s.pendingIs s.currentSpec.id = true := by
      rw [pendingIs,pending,Option.any_some,current,decide_eq_true_eq]
    exact if_pos is_
  | error error =>
    have prepared : Tended config (s.prepareSpawn nonce) := {tended with}
    change Tended config {((s.prepareSpawn nonce).spawnFailed error write) with monitor := _}
    unfold spawnFailed
    dsimp only
    split
    · have failed := crashed_tended prepared (s.prepareSpawn nonce).currentSpec.id s!"cannot start: {error}" write
      exact {failed with}
    · exact {tended with}

theorem childExited_tended (wired : Wired s.wiring) (tended : Tended config s) (child : s.child = some process)
    (write : Persisted) : Tended config (s.childExited process write) := by
  have gone : Tended config {s with child := none} := ⟨⟨nofun,tended.own.counted⟩,tended.recorded⟩
  unfold childExited
  split
  · rename_i counts
    obtain ⟨_,runs⟩ := running_own wired tended.own child counts
    rw [decide_eq_true runs.own]
    have ended := crashed_tended gone s.runningId s.exitReason write
    exact {ended with}
  · exact {gone with}

theorem reap_tended (wired : Wired s.wiring) (tended : Tended config s) :
    Tended config (s.reap exited write) := by
  unfold LauncherState.reap
  split
  · rename_i child
    cases exited with
    | true =>
      have ended := childExited_tended wired tended child write
      exact {ended with}
    | false => exact {tended with}
  · exact {tended with}

theorem switch_tended (tended : Tended config s) (apart : SwitchesApart config s (.switch runtimeId remote files))
    (accepted : s.switch config runtimeId remote files = .ok next) : Tended config next := by
  obtain ⟨spec,_,resolved,_,begun⟩ := switch_parts accepted
  rcases begin_cases begun with ⟨_,rfl⟩ | ⟨_,rfl⟩ | ⟨⟨other,fresh⟩,rfl⟩
  · exact {tended with}
  · exact {tended with}
  · refine ⟨⟨?_,Nat.zero_le _⟩,tended.recorded⟩
    intro candidate process pending child same
    cases pending
    rcases apart spec process resolved child same with joined | current
    · have fresh : s.pendingIs spec.id = false := fresh
      rw [fresh] at joined
      cases joined
    · exact absurd current other

theorem tended_step (launched : Launched config s) (tended : Tended config s) (apart : SwitchesApart config s action)
    (move : LauncherMove config s action next) : Tended config next := by
  cases move with
  | boot _ _ => exact ⟨⟨nofun,Nat.le_refl _⟩,tended.recorded⟩
  | @launch nonce result active rollback _ _ _ =>
    have written : Tended config (s.writeActive s.currentSpec.id active) := {tended with}
    exact spawn_tended written
  | reap _ => exact reap_tended launched.wired tended
  | observe _ => exact observe_tended launched tended
  | persistFloor written => exact persistFloor_tended launched tended written
  | respawn _ _ _ =>
    unfold LauncherState.respawn
    split
    · exact spawn_tended tended
    · exact {tended with}
  | accept | refused | verify | listed | reached | noted | registered | shutdown | wait | crash | damageFloor
  | damageActive => exact {tended with}
  | @connected generation link _ _ =>
    unfold runtimeConnected
    split <;> exact {tended with}
  | @disconnected generation link _ _ _ =>
    unfold runtimeDisconnected
    split <;> exact {tended with}
  | answered | denied => exact tended
  | passed _ _ =>
    unfold acceptReady
    split <;> exact {tended with}
  | switched _ accepted => exact switch_tended tended apart accepted

end Tended

theorem launched_fresh (config : Config) : Launched config freshDevice where
  wired := ⟨nofun,List.nodup_nil,nofun,nofun⟩
  vouched := unhealthy_vouched rfl
  founded := ⟨fun _ => .inl rfl,nofun,nofun⟩
  phased := ⟨fun _ => rfl,nofun⟩

structure Observed (config : Config) (s : LauncherState) : Prop where
  launched : Launched config s
  tended : Tended config s

theorem observed_fresh (config : Config) : Observed config freshDevice where
  launched := launched_fresh config
  tended := ⟨⟨nofun,Nat.le_refl _⟩,nofun,nofun,nofun⟩

theorem observed_step (observed : Observed config s)
    (apart : SwitchesApart config s action) (move : LauncherMove config s action next) : Observed config next where
  launched := launched_step observed.launched move
  tended := tended_step observed.launched observed.tended apart move

end Coflux.Launcher
