import Coflux.Foundation.Machine
import Coflux.Foundation.SemVer
import Coflux.Foundation.Table

namespace Coflux.Launcher
open FiniteMap StepMachine

-- A new version runs on probation until the launcher's own checks have passed; otherwise the
-- previous one comes back. Two markers on disk outlive the launcher: the active runtime and the
-- floor of remote releases.

def maxVersionBytes : Nat := 128
def maxPendingCrashes : Nat := 2

-- The version a text is the canonical text of. The reasons of a refusal are only logged.
def releaseText (raw : String) : Option SemVer.Version :=
  if raw.utf8ByteSize > maxVersionBytes then none
  else
    match raw.toList with
    | 'v' :: rest => (SemVer.parse (2 ^ 64 - 1) rest).filter fun parsed => "v" ++ parsed.show = raw
    | _ => none

structure ReleaseVersion where
  raw : String
  parsed : SemVer.Version
  canonical : releaseText raw = some parsed

namespace ReleaseVersion

def parse (raw : String) : Option ReleaseVersion :=
  match read : releaseText raw with
  | some parsed => some ⟨raw,parsed,read⟩
  | none => none

def isNewerThan (a b : ReleaseVersion) : Bool := decide (b.parsed.rank < a.parsed.rank)

def max (a b : ReleaseVersion) : ReleaseVersion := if b.isNewerThan a then b else a

end ReleaseVersion

structure RuntimeSpec where
  (id version cmd : String)
  args : List String

def RuntimeSpec.release (spec : RuntimeSpec) : Option ReleaseVersion := ReleaseVersion.parse spec.version

def doubleDot : List Char → Bool
  | '.' :: '.' :: _ => true
  | _ :: rest => doubleDot rest
  | [] => false

def validateVersion (version : String) : Except String Unit :=
  if version = "" then .error "version is empty"
  else if version = "builtin" then .error "version 'builtin' is reserved"
  else if version = "." then .error "version '.' would collapse into the store root"
  else if version.utf8ByteSize > maxVersionBytes then .error s!"version exceeds {maxVersionBytes} bytes"
  else if doubleDot version.toList then .error s!"version contains '..': {version}"
  else if version.toList.all fun c => c.isAlphanum || c = '.' || c = '_' || c = '-' || c = '+' then .ok ()
  else .error s!"version contains characters outside A-Za-z0-9._-+: {version}"

inductive MarkerFile where
  | missing
  | unreadable
  | text (contents : String)

-- A marker that could not be written may still have been replaced: only the directory was
-- not synced.
inductive Persisted where
  | done
  | failed (error : String) (replaced : Bool)

def Persisted.ok : Persisted → Bool
  | .done => true
  | .failed _ _ => false

def MarkerFile.persist (file : MarkerFile) (value : String) : Persisted → MarkerFile
  | .done => .text value
  | .failed _ true => .text value
  | .failed _ false => file

def isSpace (c : Char) : Bool :=
  (9 ≤ c.toNat && c.toNat ≤ 13) || (0x2000 ≤ c.toNat && c.toNat ≤ 0x200a) ||
    [0x20,0x85,0xa0,0x1680,0x2028,0x2029,0x202f,0x205f,0x3000].contains c.toNat

def trim (text : String) : String :=
  String.ofList ((text.toList.dropWhile isSpace).reverse.dropWhile isSpace).reverse

-- No result stands for the error, whose text is only logged.
def loadReleaseFloor : MarkerFile → Option (Option ReleaseVersion)
  | .missing => some none
  | .unreadable => none
  | .text contents =>
    if contents.utf8ByteSize = 0 ∨ contents.utf8ByteSize > maxVersionBytes then none
    else (ReleaseVersion.parse (trim contents)).map some

section Texts
variable {release : ReleaseVersion}

theorem parse_raw (release : ReleaseVersion) : ReleaseVersion.parse release.raw = some release := by
  unfold ReleaseVersion.parse
  split
  · rename_i parsed read
    have same : parsed = release.parsed := Option.some.inj (read.symm.trans release.canonical)
    subst same
    rfl
  · rename_i read
    rw [release.canonical] at read
    cases read

theorem allowed_solid (fine : SemVer.allowed c = true) : isSpace c = false := by
  simp only [SemVer.allowed,Char.isAlphanum,Char.isAlpha,Char.isUpper,Char.isLower,Char.isDigit,Bool.or_eq_true,
    Bool.and_eq_true,decide_eq_true_eq,UInt32.le_iff_toNat_le,ge_iff_le] at fine
  change (((((65 ≤ c.toNat ∧ c.toNat ≤ 90) ∨ (97 ≤ c.toNat ∧ c.toNat ≤ 122)) ∨ (48 ≤ c.toNat ∧ c.toNat ≤ 57)) ∨
    c = '-') ∨ c = '.') ∨ c = '+' at fine
  rcases fine with (((((upper | lower) | digit) | rfl) | rfl) | rfl)
  · simp [isSpace]; omega
  · simp [isSpace]; omega
  · simp [isSpace]; omega
  · rfl
  · rfl
  · rfl

theorem dropWhile_solid {chars : List Char} (solid : ∀ c ∈ chars, isSpace c = false) : chars.dropWhile isSpace = chars := by
  cases chars with
  | nil => rfl
  | cons first rest => simp [solid first List.mem_cons_self]

theorem trim_solid {text : String} (solid : ∀ c ∈ text.toList, isSpace c = false) : trim text = text := by
  have reversed : ∀ c ∈ text.toList.reverse, isSpace c = false := fun c mem => solid c (List.mem_reverse.mp mem)
  rw [trim,dropWhile_solid solid,dropWhile_solid reversed,List.reverse_reverse,String.ofList_toList]

theorem releaseText_parts (read : releaseText raw = some parsed) :
    raw.utf8ByteSize ≤ maxVersionBytes ∧ raw ≠ "" ∧ ∀ c ∈ raw.toList, isSpace c = false := by
  unfold releaseText at read
  split at read
  · cases read
  · split at read
    · rename_i chars
      obtain ⟨inside,_⟩ := Option.filter_eq_some_iff.mp read
      refine ⟨by omega,?_,?_⟩
      · rintro rfl
        cases chars
      · intro c mem
        rw [chars] at mem
        rcases List.mem_cons.mp mem with rfl | later
        · rfl
        · exact allowed_solid (SemVer.parse_allowed inside later)
    · cases read

theorem load_raw (release : ReleaseVersion) : loadReleaseFloor (.text release.raw) = some (some release) := by
  obtain ⟨_,some_,solid⟩ := releaseText_parts release.canonical
  have long : release.raw.utf8ByteSize ≠ 0 := fun empty => some_ (String.utf8ByteSize_eq_zero_iff.mp empty)
  simp only [loadReleaseFloor,trim_solid solid,parse_raw]
  rw [if_neg (by omega)]
  rfl

end Texts

def installedRuntime (home version : String) (files : Except String Unit) : Except String RuntimeSpec :=
  match validateVersion version,files with
  | .error error,_ => .error error
  | .ok (),.error error => .error error
  | .ok (),.ok () => .ok ⟨version,version,home ++ "/runtimes/" ++ version ++ "/coflux-runtime",[]⟩

def recoverActive (home : String) (marker : MarkerFile) (builtin : RuntimeSpec) (known : Table String RuntimeSpec)
    (files : Except String Unit) : Option RuntimeSpec :=
  match marker with
  | .text contents =>
    if contents.utf8ByteSize > 256 then none
    else if trim contents = builtin.id then none
    else
      match known.lookup (trim contents) with
      | some spec => some spec
      | none => (installedRuntime home (trim contents) files).toOption
  | _ => none

inductive SwitchState where
  | pending
  | healthy
  | committed
  | rolledBack
deriving DecidableEq

structure SwitchRecord where
  id : String
  state : SwitchState
  reason : Option String

structure HealthRefusal where
  message : String
  retry : Bool

-- The serial counts the attempts to start a process; the candidacy is the switch it was started
-- for.
structure Process where
  serial : Nat
  spec : RuntimeSpec
  nonce : String
  spawnedAt : Nat
  candidacy : Option Nat

-- The process at the other end, how many processes had been started when the connection was
-- accepted, and whether runtime_connected has seen it.
structure Link where
  sender : Option Nat
  accepted : Nat
  announced : Bool

-- What a ready message says, and what the launcher finds out about it.
structure Report where
  nonce : String
  sessions : List String
  gatewayPort : Option Nat
  live : List String
  gateway : Except String Unit

-- A ready message between two of the steps its thread takes.
inductive Ready where
  | listing (report : Report)
  | connecting (report : Report)
  | passed (report : Report)
  | refused (refusal : HealthRefusal)

structure Vouch where
  generation : Nat
  sender : Option Nat
  report : Report

structure Commit where
  spec : RuntimeSpec
  candidacy : Nat
  process : Option Process
  vouch : Option Vouch
  link : Option Link
  time : Nat

structure Rollback where
  candidacy : Nat
  (target builtin : RuntimeSpec)
  failures : Nat

structure Termination where
  candidacy : Nat
  process : Option Process
  time : Nat

-- A builtin that is not older wins over the active runtime that was recovered.
def keepRecovered (builtin : RuntimeSpec) (recovered : Option RuntimeSpec) : Option RuntimeSpec :=
  match builtin.release with
  | some builtinRelease =>
    recovered.filter fun spec =>
      match spec.release with
      | some activeRelease => activeRelease.isNewerThan builtinRelease
      | none => true
  | none => recovered

def raiseFloor (floor : Option ReleaseVersion) (spec : RuntimeSpec) : Option ReleaseVersion :=
  match spec.release with
  | some candidate => some (match floor with | some current => current.max candidate | none => candidate)
  | none => floor

def noteReason (record : SwitchRecord) (id reason : String) : SwitchRecord :=
  if record.id = id then {record with reason := some (record.reason.getD reason)} else record

inductive ReadyDecision where
  | answered (floor : Option String)
  | refused (refusal : HealthRefusal)
  | verify (floor : Option String)

def showIds (ids : List String) : String := "[" ++ ", ".intercalate (ids.map fun id => "\"" ++ id ++ "\"") ++ "]"

def takeoverCheck (report : Report) : Except String (List String) → Ready
  | .error error => .refused ⟨s!"ptyd session list unavailable: {error}",true⟩
  | .ok live =>
    let missing := live.filter fun id => !report.sessions.contains id
    if missing ≠ [] then
      .refused ⟨s!"{missing.length} live ptyd session(s) not taken over: {showIds missing}",true⟩
    else
      match report.gatewayPort with
      | none => .refused ⟨"runtime reports no gateway port",false⟩
      | some _ => .connecting {report with live := live}

def gatewayCheck (report : Report) : Except String Unit → Ready
  | .ok () => .passed {report with gateway := .ok ()}
  | .error error => .refused ⟨s!"gateway port {report.gatewayPort.getD 0} refused a connection: {error}",true⟩

-- The monitor keeps the lock, except before the first start and while it sleeps.
inductive MonitorPhase where
  | unstarted
  | asleep
  | reaped
  | activeWritten
  | observed
deriving DecidableEq

structure Config where
  home : String
  probation : Nat

-- The markers and the clock outlive the launcher; from up on the fields are its own. The last group
-- is history.
structure LauncherState where
  (activeMarker floorMarker : MarkerFile)
  now : Nat
  up : Bool
  builtin : RuntimeSpec
  known : Table String RuntimeSpec
  active : RuntimeSpec
  pending : Option RuntimeSpec
  (pendingRelease committedReleaseFloor : Option ReleaseVersion)
  releaseFloorDurable : Bool
  pendingFallback : Option RuntimeSpec
  child : Option Process
  runningId : String
  (restarts pendingCrashes : Nat)
  pendingHealthy : Bool
  pendingConnectionGeneration : Option Nat
  spawnNonce : String
  pendingTerminationRequested : Bool
  (startedAt nextSpawnAt : Nat)
  shuttingDown : Bool
  lastSwitch : Option SwitchRecord
  monitor : MonitorPhase
  generations : Nat
  links : Table Nat Link
  readies : Table Nat Ready
  nonces : List String
  (candidacy failures : Nat)
  vouch : Option Vouch
  (sponsors remoteCommitted builtinsRun : List ReleaseVersion)
  committed : List RuntimeSpec
  commits : List Commit
  rollbacks : List Rollback
  terminations : List Termination

namespace LauncherState

def recordSwitch (s : LauncherState) (id : String) (state : SwitchState) (reason : Option String) : LauncherState :=
  {s with lastSwitch := some ⟨id,state,reason⟩}

def writeActive (s : LauncherState) (id : String) (write : Persisted) : LauncherState :=
  {s with activeMarker := s.activeMarker.persist id write}

section
variable (config : Config) (s : LauncherState) (builtin : RuntimeSpec) (others : Table String RuntimeSpec) (files : Except String Unit)

def recovered : Option RuntimeSpec :=
  keepRecovered builtin (recoverActive config.home s.activeMarker builtin (others.insert builtin.id builtin) files)

-- Manager::new. The recovered runtime counts as a switch of its own.
def boot (write : Persisted) : LauncherState :=
  let known := others.insert builtin.id builtin
  let recovered := s.recovered config builtin others files
  let active := recovered.getD builtin
  let loaded := loadReleaseFloor s.floorMarker
  let floor := raiseFloor (raiseFloor (loaded.getD none) builtin) active
  {s with
    floorMarker := match floor with | some floor => s.floorMarker.persist floor.raw write | none => s.floorMarker
    up := true
    builtin := builtin
    known := match recovered with | some spec => known.insert spec.id spec | none => known
    active := active
    pending := recovered
    pendingRelease := none
    committedReleaseFloor := floor
    releaseFloorDurable := match floor with | some _ => write.ok | none => loaded.isSome
    pendingFallback := recovered.map fun _ => builtin
    child := none
    runningId := active.id
    restarts := 0
    pendingCrashes := 0
    pendingHealthy := false
    pendingConnectionGeneration := none
    spawnNonce := ""
    pendingTerminationRequested := false
    startedAt := s.now
    nextSpawnAt := s.now
    shuttingDown := false
    lastSwitch := none
    monitor := .unstarted
    generations := 0
    links := ∅
    readies := ∅
    candidacy := s.candidacy + 1
    failures := 0
    vouch := none
    sponsors := []
    builtinsRun := match builtin.release with | some release => release :: s.builtinsRun | none => s.builtinsRun}

end

section
variable (s : LauncherState)

def ensureReleaseIsNewer (candidate : ReleaseVersion) : Except String Unit :=
  if ¬ s.releaseFloorDurable then .error "release floor is not durable; remote switches fail closed"
  else
    match s.committedReleaseFloor.filter fun floor => !candidate.isNewerThan floor with
    | some floor =>
      .error s!"refusing downgrade/replay of release {candidate.raw}: committed floor is {floor.raw}"
    | none =>
      match s.pendingRelease.filter fun pending => !candidate.isNewerThan pending with
      | some pending =>
        .error s!"refusing downgrade/replay of release {candidate.raw}: observing pending {pending.raw}"
      | none => .ok ()

def currentSpec : RuntimeSpec := s.pending.getD s.active

def pendingIs (id : String) : Bool := s.pending.any fun spec => spec.id = id

def pendingRunning : Bool := s.child.isSome && s.pendingIs s.runningId

def clearPending : LauncherState :=
  {s with pendingHealthy := false,pendingConnectionGeneration := none,pendingTerminationRequested := false}

def raisedFloor : Option ReleaseVersion :=
  match s.pendingRelease with
  | some release => some (match s.committedReleaseFloor with | some floor => floor.max release | none => release)
  | none => s.committedReleaseFloor

def commit (pending : RuntimeSpec) : LauncherState :=
  {((s.recordSwitch pending.id .committed none).clearPending) with
    pending := none
    pendingRelease := none
    pendingFallback := none
    committedReleaseFloor := s.raisedFloor
    releaseFloorDurable := s.releaseFloorDurable || s.pendingRelease.isSome
    active := pending
    pendingCrashes := 0
    restarts := 0
    sponsors := []
    remoteCommitted := s.sponsors ++ s.remoteCommitted
    committed := pending :: s.committed
    commits :=
      ⟨pending,s.candidacy,s.child,s.vouch,s.vouch.bind (fun vouch => s.links.lookup vouch.generation),s.now⟩ :: s.commits}

def rollbackPending (source reason : String) (write : Persisted) : LauncherState :=
  let fallback := s.pendingFallback.getD s.active
  {((s.recordSwitch source .rolledBack (some reason)).clearPending.writeActive fallback.id write) with
    pending := none
    pendingRelease := none
    pendingFallback := none
    active := fallback
    pendingCrashes := 0
    sponsors := []
    rollbacks := ⟨s.candidacy,fallback,s.builtin,s.failures⟩ :: s.rollbacks}

def countCrash (own : Bool) : LauncherState :=
  {s with pendingCrashes := s.pendingCrashes + 1,failures := if own then s.failures + 1 else s.failures}

def crashed (own : Bool) (source reason : String) (write : Persisted) : LauncherState :=
  if (s.countCrash own).pendingCrashes ≥ maxPendingCrashes then (s.countCrash own).rollbackPending source reason write
  else s.countCrash own

-- Every process of a candidate must pass the checks itself.
def prepareSpawn (nonce : String) : LauncherState :=
  let isPending := s.pendingIs s.currentSpec.id
  {s with
    pendingHealthy := if isPending then false else s.pendingHealthy
    pendingConnectionGeneration := if isPending then none else s.pendingConnectionGeneration
    pendingTerminationRequested := if isPending then false else s.pendingTerminationRequested
    spawnNonce := nonce
    nonces := s.nonces ++ [nonce]}

def spawned (process : Process) : LauncherState :=
  {s with runningId := process.spec.id,startedAt := process.spawnedAt,child := some process}

def spawnFailed (error : String) (write : Persisted) : LauncherState :=
  let counted :=
    if s.pendingIs s.currentSpec.id then s.crashed true s.currentSpec.id s!"cannot start: {error}" write else s
  {counted with nextSpawnAt := s.now + 500}

def spawn (nonce : String) (result : Except String Unit) (write : Persisted) : LauncherState :=
  match result with
  | .ok () =>
    (s.prepareSpawn nonce).spawned
      ⟨s.nonces.length,s.currentSpec,nonce,s.now,if s.pendingIs s.currentSpec.id then some s.candidacy else none⟩
  | .error error => (s.prepareSpawn nonce).spawnFailed error write

def launch (nonce : String) (result : Except String Unit) (active rollback : Persisted) : LauncherState :=
  {((s.writeActive s.currentSpec.id active).spawn nonce result rollback) with monitor := .asleep}

def exitReason : String :=
  match s.lastSwitch.bind SwitchRecord.reason with
  | some refusal => if s.pendingTerminationRequested then refusal else "exited repeatedly during probation"
  | none => "exited repeatedly during probation"

-- The monitor finds the process gone. Its exit is attributed by the runtime id.
def childExited (process : Process) (write : Persisted) : LauncherState :=
  if s.pendingIs s.runningId then
    {({s with child := none}.crashed (process.candidacy = some s.candidacy) s.runningId s.exitReason write) with
      nextSpawnAt := s.now + 300}
  else
    let restarts := if s.now - s.startedAt > 10000 then 1 else s.restarts + 1
    {s with child := none,restarts := restarts,nextSpawnAt := s.now + min 5000 (200 * restarts)}

def reap (exited : Bool) (write : Persisted) : LauncherState :=
  match s.child with
  | some process => {(if exited then s.childExited process write else s) with monitor := .reaped}
  | none => {s with monitor := .reaped}

-- The candidate did not pass in time; the process is killed and found gone later.
def terminate : LauncherState :=
  {s with
    pendingTerminationRequested := true
    lastSwitch := s.lastSwitch.map fun record =>
      noteReason record s.runningId "did not pass the launcher's health checks within probation"
    terminations := ⟨s.candidacy,s.child,s.now⟩ :: s.terminations}

end

-- The probation check up to the first marker that a commit writes.
def observe (config : Config) (s : LauncherState) (write : Persisted) : LauncherState :=
  match s.pending with
  | some pending =>
    if s.pendingRunning ∧ s.startedAt + config.probation ≤ s.now then
      if s.pendingHealthy then
        {(s.writeActive pending.id write) with monitor := if write.ok then .activeWritten else .observed}
      else if s.pendingTerminationRequested then {s with monitor := .observed}
      else {s.terminate with monitor := .observed}
    else {s with monitor := .observed}
  | none => {s with monitor := .observed}

-- The rest of the commit: a release goes into the floor marker first.
def persistFloor (s : LauncherState) (write : Persisted) : LauncherState :=
  match s.pending with
  | some pending =>
    match s.pendingRelease with
    | some release =>
      let written := {s with floorMarker := s.floorMarker.persist release.raw write}
      if write.ok then {(written.commit pending) with monitor := .observed}
      else {written with releaseFloorDurable := false,monitor := .observed}
    | none => {(s.commit pending) with monitor := .observed}
  | none => {s with monitor := .observed}

def respawn (s : LauncherState) (nonce : String) (result : Except String Unit) (write : Persisted) : LauncherState :=
  if s.child.isNone ∧ s.shuttingDown = false ∧ s.nextSpawnAt ≤ s.now then
    {(s.spawn nonce result write) with monitor := .asleep}
  else {s with monitor := .asleep}

def runtimeConnected (s : LauncherState) (generation : Nat) : LauncherState :=
  if s.pendingRunning then {s with pendingConnectionGeneration := some generation,pendingHealthy := false} else s

def runtimeDisconnected (s : LauncherState) (generation : Nat) : LauncherState :=
  if s.pendingConnectionGeneration = some generation then
    {s with pendingConnectionGeneration := none,pendingHealthy := false}
  else s

def noteRefusal (s : LauncherState) (refusal : HealthRefusal) : LauncherState :=
  {s with lastSwitch := s.lastSwitch.map fun record =>
    if record.state = .pending then {record with reason := some refusal.message} else record}

def decideReady (s : LauncherState) (generation : Nat) (nonce : String) : ReadyDecision :=
  let floor := s.committedReleaseFloor.map ReleaseVersion.raw
  if ¬ s.pendingRunning then .answered floor
  else if s.pendingConnectionGeneration ≠ some generation then
    .refused ⟨"ready arrived on a connection that is not the candidate's",false⟩
  else if s.pendingTerminationRequested then .refused ⟨"candidate is being terminated",false⟩
  else if nonce = "" ∨ nonce ≠ s.spawnNonce then .refused ⟨"nonce does not match this spawn",false⟩
  else .verify floor

-- The state may have changed while the checks ran.
def acceptReady (s : LauncherState) (generation : Nat) (report : Report) : LauncherState :=
  if s.pendingRunning ∧ s.pendingConnectionGeneration = some generation ∧ s.spawnNonce = report.nonce ∧
      s.pendingTerminationRequested = false then
    {(s.recordSwitch s.runningId .healthy none) with
      pendingHealthy := true
      vouch := some ⟨generation,(s.links.lookup generation).bind Link.sender,report⟩}
  else s

def beginSwitch (s : LauncherState) (spec : RuntimeSpec) (release : Option ReleaseVersion) : Except String LauncherState :=
  if s.shuttingDown then .error "launcher is shutting down"
  else if spec.id = s.active.id ∧ s.pending = none then .ok s
  else if s.pendingIs spec.id then .ok {s with sponsors := release.toList ++ s.sponsors}
  else
    .ok {((s.recordSwitch spec.id .pending none).clearPending) with
      pending := some spec
      pendingRelease := release
      pendingCrashes := 0
      candidacy := s.candidacy + 1
      failures := 0
      vouch := none
      sponsors := release.toList}

def resolve (config : Config) (s : LauncherState) (id : String) (remote : Bool) (files : Except String Unit) :
    Except String RuntimeSpec :=
  match s.known.lookup id with
  | some spec => .ok spec
  | none => if remote then installedRuntime config.home id files else .error s!"unknown runtime {id}"

def switchRelease (s : LauncherState) (id : String) (spec : RuntimeSpec) (remote : Bool) :
    Except String (Option ReleaseVersion) :=
  if remote then
    match spec.release with
    | some release => (s.ensureReleaseIsNewer release).map fun _ => some release
    | none =>
      if (s.known.lookup id).isNone then .error s!"remote switch to a non-release version {id} is not allowed"
      else .ok none
  else .ok none

def switch (config : Config) (s : LauncherState) (id : String) (remote : Bool) (files : Except String Unit) :
    Except String LauncherState :=
  match s.resolve config id remote files with
  | .error error => .error error
  | .ok spec =>
    match s.switchRelease id spec remote with
    | .error error => .error error
    | .ok release => {s with known := s.known.insert spec.id spec}.beginSwitch spec release

section
variable (s : LauncherState)

def register (spec : RuntimeSpec) (file : Except String Unit) : Except String LauncherState :=
  match validateVersion spec.id,file with
  | .error error,_ => .error error
  | .ok (),.error error => .error error
  | .ok (),.ok () => .ok {s with known := s.known.insert spec.id spec}

def unlocked : Bool := s.up && (s.monitor = .unstarted || s.monitor = .asleep)

-- An update in place never installs an older builtin.
def upgrades (builtin : RuntimeSpec) : Bool :=
  match s.builtinsRun with
  | [] => true
  | last :: _ => builtin.release.any fun release => !last.isNewerThan release

-- Nobody but a process itself knows the nonce it was started with.
def tells (sender : Option Nat) (nonce : String) : Bool :=
  (List.range s.nonces.length).all fun serial => s.nonces[serial]? ≠ some nonce || sender = some serial

end

end LauncherState

inductive LauncherAction where
  | boot (builtin : RuntimeSpec) (others : Table String RuntimeSpec) (files : Except String Unit) (write : Persisted)
  | launch (nonce : String) (result : Except String Unit) (active rollback : Persisted)
  | reap (exited : Bool) (write : Persisted)
  | observe (write : Persisted)
  | persistFloor (write : Persisted)
  | respawn (nonce : String) (result : Except String Unit) (write : Persisted)
  | accept (sender : Option Nat)
  | connected (generation : Nat)
  | disconnected (generation : Nat)
  | ready (generation : Nat) (nonce : String) (sessions : List String) (gatewayPort : Option Nat)
  | listed (generation : Nat) (live : Except String (List String))
  | reached (generation : Nat) (gateway : Except String Unit)
  | settleReady (generation : Nat)
  | switch (id : String) (remote : Bool) (files : Except String Unit)
  | register (spec : RuntimeSpec) (file : Except String Unit)
  | shutdown
  | wait (duration : Nat)
  | crash
  | damageFloor (contents : MarkerFile)
  | damageActive (contents : MarkerFile)

def launcherStep (config : Config) (s : LauncherState) : LauncherAction → Option LauncherState
  | .boot builtin others files write =>
    if ¬ s.up ∧ s.upgrades builtin then some (s.boot config builtin others files write) else none
  | .launch nonce result active rollback =>
    if s.up ∧ s.monitor = .unstarted ∧ nonce ∉ s.nonces ∧ nonce ≠ "" then some (s.launch nonce result active rollback)
    else none
  | .reap exited write =>
    if s.up ∧ s.monitor = .asleep ∧ s.shuttingDown = false then some (s.reap exited write) else none
  | .observe write => if s.up ∧ s.monitor = .reaped then some (s.observe config write) else none
  | .persistFloor write => if s.up ∧ s.monitor = .activeWritten then some (s.persistFloor write) else none
  | .respawn nonce result write =>
    if s.up ∧ s.monitor = .observed ∧ nonce ∉ s.nonces ∧ nonce ≠ "" then some (s.respawn nonce result write) else none
  | .accept sender =>
    if s.up ∧ sender.all (· < s.nonces.length) then
      some {s with
        generations := s.generations + 1
        links := s.links.insert (s.generations + 1) ⟨sender,s.nonces.length,false⟩}
    else none
  | .connected generation =>
    match s.links.lookup generation with
    | some link =>
      if s.unlocked ∧ link.announced = false then
        some {(s.runtimeConnected generation) with links := s.links.insert generation {link with announced := true}}
      else none
    | none => none
  | .disconnected generation =>
    match s.links.lookup generation,s.readies.lookup generation with
    | some link,none =>
      if s.unlocked ∧ link.announced then
        some {(s.runtimeDisconnected generation) with links := s.links.erase generation}
      else none
    | _,_ => none
  | .ready generation nonce sessions gatewayPort =>
    match s.links.lookup generation,s.readies.lookup generation with
    | some link,none =>
      if s.unlocked ∧ link.announced ∧ s.tells link.sender nonce then
        match s.decideReady generation nonce with
        | .answered _ => some s
        | .refused refusal => some {s with readies := s.readies.insert generation (.refused refusal)}
        | .verify _ =>
          some {s with
            readies := s.readies.insert generation (.listing ⟨nonce,sessions,gatewayPort,[],.error "not tried"⟩)}
      else none
    | _,_ => none
  | .listed generation live =>
    match s.up,s.readies.lookup generation with
    | true,some (.listing report) => some {s with readies := s.readies.insert generation (takeoverCheck report live)}
    | _,_ => none
  | .reached generation gateway =>
    match s.up,s.readies.lookup generation with
    | true,some (.connecting report) =>
      some {s with readies := s.readies.insert generation (gatewayCheck report gateway)}
    | _,_ => none
  | .settleReady generation =>
    match s.readies.lookup generation with
    | some (.passed report) =>
      if s.unlocked then some {(s.acceptReady generation report) with readies := s.readies.erase generation} else none
    | some (.refused refusal) =>
      if s.unlocked then some {(s.noteRefusal refusal) with readies := s.readies.erase generation} else none
    | _ => none
  | .switch id remote files => if s.unlocked then some ((s.switch config id remote files).toOption.getD s) else none
  | .register spec file => if s.unlocked then some ((s.register spec file).toOption.getD s) else none
  | .shutdown => if s.unlocked then some {s with shuttingDown := true} else none
  | .wait duration => some {s with now := s.now + duration}
  | .crash => if s.up then some {s with up := false} else none
  | .damageFloor contents =>
    if loadReleaseFloor contents = none then some {s with floorMarker := contents} else none
  | .damageActive contents => some {s with activeMarker := contents}

def launcherMachine (config : Config) : Machine LauncherState LauncherAction := ⟨launcherStep config⟩

inductive LauncherMove (config : Config) (s : LauncherState) : LauncherAction → LauncherState → Prop where
  | boot (down : s.up = false) (upgrades : s.upgrades builtin = true) :
      LauncherMove config s (.boot builtin others files write) (s.boot config builtin others files write)
  | launch (unstarted : s.monitor = .unstarted) (unused : nonce ∉ s.nonces) (drawn : nonce ≠ "") :
      LauncherMove config s (.launch nonce result active rollback) (s.launch nonce result active rollback)
  | reap (asleep : s.monitor = .asleep) : LauncherMove config s (.reap exited write) (s.reap exited write)
  | observe (reaped : s.monitor = .reaped) : LauncherMove config s (.observe write) (s.observe config write)
  | persistFloor (written : s.monitor = .activeWritten) : LauncherMove config s (.persistFloor write) (s.persistFloor write)
  | respawn (observed : s.monitor = .observed) (unused : nonce ∉ s.nonces) (drawn : nonce ≠ "") :
      LauncherMove config s (.respawn nonce result write) (s.respawn nonce result write)
  | accept (started : ∀ serial, sender = some serial → serial < s.nonces.length) :
      LauncherMove config s (.accept sender) {s with
        generations := s.generations + 1
        links := s.links.insert (s.generations + 1) ⟨sender,s.nonces.length,false⟩}
  | connected (free : s.unlocked = true) (found : s.links.lookup generation = some link) :
      LauncherMove config s (.connected generation)
        {(s.runtimeConnected generation) with links := s.links.insert generation {link with announced := true}}
  | disconnected (free : s.unlocked = true) (found : s.links.lookup generation = some link)
      (idle : s.readies.lookup generation = none) :
      LauncherMove config s (.disconnected generation)
        {(s.runtimeDisconnected generation) with links := s.links.erase generation}
  | answered (floor : Option String) (decided : s.decideReady generation nonce = .answered floor) :
      LauncherMove config s (.ready generation nonce sessions gatewayPort) s
  | refused (found : s.links.lookup generation = some link) (decided : s.decideReady generation nonce = .refused refusal) :
      LauncherMove config s (.ready generation nonce sessions gatewayPort)
        {s with readies := s.readies.insert generation (.refused refusal)}
  | verify (free : s.unlocked = true) (found : s.links.lookup generation = some link)
      (tells : s.tells link.sender nonce = true) (decided : s.decideReady generation nonce = .verify floor) :
      LauncherMove config s (.ready generation nonce sessions gatewayPort)
        {s with readies := s.readies.insert generation (.listing ⟨nonce,sessions,gatewayPort,[],.error "not tried"⟩)}
  | listed (asked : s.readies.lookup generation = some (.listing report)) :
      LauncherMove config s (.listed generation live)
        {s with readies := s.readies.insert generation (takeoverCheck report live)}
  | reached (asked : s.readies.lookup generation = some (.connecting report)) :
      LauncherMove config s (.reached generation gateway)
        {s with readies := s.readies.insert generation (gatewayCheck report gateway)}
  | passed (free : s.unlocked = true) (checked : s.readies.lookup generation = some (.passed report)) :
      LauncherMove config s (.settleReady generation)
        {(s.acceptReady generation report) with readies := s.readies.erase generation}
  | noted (free : s.unlocked = true) (checked : s.readies.lookup generation = some (.refused refusal)) :
      LauncherMove config s (.settleReady generation) {(s.noteRefusal refusal) with readies := s.readies.erase generation}
  | switched (free : s.unlocked = true) (accepted : s.switch config runtimeId remote files = .ok next) :
      LauncherMove config s (.switch runtimeId remote files) next
  | denied (error : String) (refused : s.switch config runtimeId remote files = .error error) :
      LauncherMove config s (.switch runtimeId remote files) s
  | registered (known : Table String RuntimeSpec) : LauncherMove config s (.register spec file) {s with known := known}
  | shutdown : LauncherMove config s .shutdown {s with shuttingDown := true}
  | wait : LauncherMove config s (.wait duration) {s with now := s.now + duration}
  | crash : LauncherMove config s .crash {s with up := false}
  | damageFloor (damaged : loadReleaseFloor contents = none) :
      LauncherMove config s (.damageFloor contents) {s with floorMarker := contents}
  | damageActive : LauncherMove config s (.damageActive contents) {s with activeMarker := contents}

section Inversion
variable {config : Config} {s next : LauncherState}

theorem ready_moves (step : launcherStep config s (.ready generation nonce sessions gatewayPort) = some next) :
    LauncherMove config s (.ready generation nonce sessions gatewayPort) next := by
  simp only [launcherStep] at step
  split at step
  · rename_i found _
    split at step
    · rename_i allowed
      split at step
      · rename_i floor decided
        cases step
        exact .answered floor decided
      · rename_i decided
        cases step
        exact .refused found decided
      · rename_i decided
        cases step
        exact .verify allowed.1 found allowed.2.2 decided
    · cases step
  · cases step

theorem settleReady_moves (step : launcherStep config s (.settleReady generation) = some next) :
    LauncherMove config s (.settleReady generation) next := by
  simp only [launcherStep] at step
  split at step
  · rename_i checked
    obtain ⟨free,rfl⟩ := guard_parts step
    exact .passed free checked
  · rename_i checked
    obtain ⟨free,rfl⟩ := guard_parts step
    exact .noted free checked
  · cases step

theorem switch_moves (step : launcherStep config s (.switch runtimeId remote files) = some next) :
    LauncherMove config s (.switch runtimeId remote files) next := by
  obtain ⟨free,rfl⟩ := guard_parts step
  cases switched : s.switch config runtimeId remote files with
  | ok after => exact .switched free switched
  | error error => exact .denied error switched

theorem register_moves (step : launcherStep config s (.register spec file) = some next) :
    LauncherMove config s (.register spec file) next := by
  obtain ⟨_,rfl⟩ := guard_parts step
  unfold LauncherState.register
  split
  · exact .registered s.known
  · exact .registered s.known
  · exact .registered (s.known.insert spec.id spec)

theorem launcher_moves (step : launcherStep config s action = some next) : LauncherMove config s action next := by
  cases action with
  | boot builtin others files write =>
    obtain ⟨allowed,rfl⟩ := guard_parts step
    exact .boot (Bool.not_eq_true _ ▸ allowed.1) allowed.2
  | launch nonce result active rollback =>
    obtain ⟨allowed,rfl⟩ := guard_parts step
    exact .launch allowed.2.1 allowed.2.2.1 allowed.2.2.2
  | reap exited write =>
    obtain ⟨allowed,rfl⟩ := guard_parts step
    exact .reap allowed.2.1
  | observe write =>
    obtain ⟨allowed,rfl⟩ := guard_parts step
    exact .observe allowed.2
  | persistFloor write =>
    obtain ⟨allowed,rfl⟩ := guard_parts step
    exact .persistFloor allowed.2
  | respawn nonce result write =>
    obtain ⟨allowed,rfl⟩ := guard_parts step
    exact .respawn allowed.2.1 allowed.2.2.1 allowed.2.2.2
  | accept sender =>
    obtain ⟨allowed,rfl⟩ := guard_parts step
    refine .accept ?_
    rintro serial rfl
    simpa using allowed.2
  | connected generation =>
    simp only [launcherStep] at step
    split at step
    · rename_i link found
      obtain ⟨allowed,rfl⟩ := guard_parts step
      exact .connected allowed.1 found
    · cases step
  | disconnected generation =>
    simp only [launcherStep] at step
    split at step
    · rename_i found idle
      obtain ⟨allowed,rfl⟩ := guard_parts step
      exact .disconnected allowed.1 found idle
    · cases step
  | ready generation nonce sessions gatewayPort => exact ready_moves step
  | listed generation live =>
    simp only [launcherStep] at step
    split at step
    · rename_i report _ asked
      cases step
      exact .listed asked
    · cases step
  | reached generation gateway =>
    simp only [launcherStep] at step
    split at step
    · rename_i asked
      cases step
      exact .reached asked
    · cases step
  | settleReady generation => exact settleReady_moves step
  | switch runtimeId remote files => exact switch_moves step
  | register spec file => exact register_moves step
  | shutdown =>
    obtain ⟨_,rfl⟩ := guard_parts step
    exact .shutdown
  | wait duration =>
    cases step
    exact .wait
  | crash =>
    obtain ⟨_,rfl⟩ := guard_parts step
    exact .crash
  | damageFloor contents =>
    obtain ⟨damaged,rfl⟩ := guard_parts step
    exact .damageFloor damaged
  | damageActive contents =>
    cases step
    exact .damageActive

theorem switch_parts (switched : s.switch config runtimeId remote files = .ok next) :
    ∃ spec release, s.resolve config runtimeId remote files = .ok spec ∧ s.switchRelease runtimeId spec remote = .ok release ∧
      {s with known := s.known.insert spec.id spec}.beginSwitch spec release = .ok next := by
  unfold LauncherState.switch at switched
  split at switched
  · cases switched
  · rename_i spec found
    split at switched
    · cases switched
    · rename_i release bound
      exact ⟨spec,release,found,bound,switched⟩

theorem begin_cases (begun : s.beginSwitch spec release = .ok next) :
    (spec.id = s.active.id ∧ s.pending = none) ∧ next = s ∨
      s.pendingIs spec.id = true ∧ next = {s with sponsors := release.toList ++ s.sponsors} ∨
      (¬ (spec.id = s.active.id ∧ s.pending = none) ∧ s.pendingIs spec.id = false) ∧
        next = {((s.recordSwitch spec.id .pending none).clearPending) with
          pending := some spec
          pendingRelease := release
          pendingCrashes := 0
          candidacy := s.candidacy + 1
          failures := 0
          vouch := none
          sponsors := release.toList} := by
  unfold LauncherState.beginSwitch at begun
  split at begun
  · cases begun
  · split at begun
    · rename_i current
      cases begun
      exact .inl ⟨current,rfl⟩
    · rename_i other
      split at begun
      · rename_i joined
        cases begun
        exact .inr (.inl ⟨joined,rfl⟩)
      · rename_i fresh
        cases begun
        exact .inr (.inr ⟨⟨other,Bool.not_eq_true _ ▸ fresh⟩,rfl⟩)

end Inversion

def freshDevice : LauncherState where
  activeMarker := .missing
  floorMarker := .missing
  now := 0
  up := false
  builtin := ⟨"","","",[]⟩
  known := ∅
  active := ⟨"","","",[]⟩
  pending := none
  pendingRelease := none
  committedReleaseFloor := none
  releaseFloorDurable := false
  pendingFallback := none
  child := none
  runningId := ""
  restarts := 0
  pendingCrashes := 0
  pendingHealthy := false
  pendingConnectionGeneration := none
  spawnNonce := ""
  pendingTerminationRequested := false
  startedAt := 0
  nextSpawnAt := 0
  shuttingDown := false
  lastSwitch := none
  monitor := .unstarted
  generations := 0
  links := ∅
  readies := ∅
  nonces := []
  candidacy := 0
  failures := 0
  vouch := none
  sponsors := []
  remoteCommitted := []
  builtinsRun := []
  committed := []
  commits := []
  rollbacks := []
  terminations := []

end Coflux.Launcher
