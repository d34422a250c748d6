import Coflux.Launcher.Manager

namespace Coflux.Launcher
open FiniteMap StepMachine

-- Releases switched to remotely and committed, and builtin releases the device has run with.
def LauncherState.past (s : LauncherState) : List ReleaseVersion := s.remoteCommitted ++ s.builtinsRun

def ReleaseVersion.rank (release : ReleaseVersion) : SemVer.Rank := release.parsed.rank

def acceptedRelease (config : Config) (s : LauncherState) : LauncherAction → Option ReleaseVersion
  | .switch id true files =>
    match s.unlocked,s.switch config id true files,s.resolve config id true files with
    | true,.ok _,.ok spec => spec.release
    | _,_,_ => none
  | _ => none

def Bounds (floor : Option ReleaseVersion) (past : ReleaseVersion) : Prop :=
  ∃ release, floor = some release ∧ past.rank ≤ release.rank

-- The launcher's floor stands for everything it must not go back behind.
def Knows (s : LauncherState) : Prop := s.releaseFloorDurable = true ∧ ∀ past ∈ s.past, Bounds s.committedReleaseFloor past

structure FloorRespected (config : Config) (s : LauncherState) (action : LauncherAction) : Prop where
  newer : ∀ release, acceptedRelease config s action = some release → ∀ past ∈ s.past, release.isNewerThan past = true
  closed : ¬ Knows s → acceptedRelease config s action = none

def startReleases (config : Config) (s : LauncherState) (builtin : RuntimeSpec) (others : Table String RuntimeSpec)
    (files : Except String Unit) : List ReleaseVersion :=
  [builtin,(s.recovered config builtin others files).getD builtin].filterMap RuntimeSpec.release

-- A start with a damaged marker has no release to go by, or one not older than the past; no remote
-- switch joins a candidate under observation.
def FloorTrusted (config : Config) (s : LauncherState) : LauncherAction → Prop
  | .boot builtin others files _ => loadReleaseFloor s.floorMarker = none →
      startReleases config s builtin others files = [] ∨
        ∀ past ∈ s.past, ∃ known ∈ startReleases config s builtin others files, past.isNewerThan known = false
  | .switch id true files => ∀ spec release, s.resolve config id true files = .ok spec → spec.release = some release →
      s.pendingIs spec.id = false
  | _ => True

def Covered (s : LauncherState) (past : ReleaseVersion) : Prop :=
  loadReleaseFloor s.floorMarker = none ∨ (∃ floor, loadReleaseFloor s.floorMarker = some floor ∧ Bounds floor past) ∨
    Bounds s.builtinsRun.head? past

structure Floored (s : LauncherState) : Prop where
  disk : ∀ past ∈ s.past, Covered s past
  durable : s.releaseFloorDurable = true → ∀ past ∈ s.past, Bounds s.committedReleaseFloor past
  pending : ∀ release, s.pendingRelease = some release → ∀ past ∈ s.past, past.rank < release.rank
  sponsored : ∀ release ∈ s.sponsors, s.pendingRelease = some release

structure FloorSame (s next : LauncherState) : Prop where
  marker : next.floorMarker = s.floorMarker
  floor : next.committedReleaseFloor = s.committedReleaseFloor
  durable : next.releaseFloorDurable = s.releaseFloorDurable
  remote : next.remoteCommitted = s.remoteCommitted
  builtins : next.builtinsRun = s.builtinsRun
  candidate : next.pendingRelease = s.pendingRelease ∧ next.sponsors = s.sponsors ∨
    next.pendingRelease = none ∧ next.sponsors = []

section Orders
variable {a : ReleaseVersion}

theorem newer_iff : a.isNewerThan b = true ↔ b.rank < a.rank := decide_eq_true_iff

theorem not_newer_iff : a.isNewerThan b = false ↔ a.rank ≤ b.rank := by
  rw [← Bool.not_eq_true,newer_iff,not_lt]

theorem max_left : a.rank ≤ (a.max b).rank := by
  unfold ReleaseVersion.max
  split
  · rename_i newer
    exact le_of_lt (newer_iff.mp newer)
  · exact le_refl _

theorem max_right : b.rank ≤ (a.max b).rank := by
  unfold ReleaseVersion.max
  split
  · exact le_refl _
  · rename_i older
    exact not_newer_iff.mp (Bool.not_eq_true _ ▸ older)

theorem raise_keeps (bounds : Bounds floor past) : Bounds (raiseFloor floor spec) past := by
  obtain ⟨current,rfl,below⟩ := bounds
  unfold raiseFloor
  split
  · exact ⟨_,rfl,below.trans max_left⟩
  · exact ⟨current,rfl,below⟩

theorem raise_bounds (release : spec.release = some a) : Bounds (raiseFloor floor spec) a := by
  unfold raiseFloor
  rw [release]
  cases floor with
  | none => exact ⟨a,rfl,le_refl _⟩
  | some current => exact ⟨_,rfl,max_right⟩

theorem bounds_trans (bounds : Bounds floor a) (below : past.rank ≤ a.rank) : Bounds floor past := by
  obtain ⟨release,same,above⟩ := bounds
  exact ⟨release,same,below.trans above⟩

end Orders

section Same
theorem same_trans (one : FloorSame s middle) (two : FloorSame middle next) : FloorSame s next := by
  refine ⟨two.marker.trans one.marker,two.floor.trans one.floor,two.durable.trans one.durable,two.remote.trans one.remote,
    two.builtins.trans one.builtins,?_⟩
  rcases two.candidate with ⟨pending,sponsors⟩ | dropped
  · rw [pending,sponsors]
    exact one.candidate
  · exact .inr dropped

theorem same_floored (same : FloorSame s next) (floored : Floored s) : Floored next := by
  have past : next.past = s.past := by rw [LauncherState.past,LauncherState.past,same.remote,same.builtins]
  constructor
  · intro release mem
    rw [past] at mem
    have covered := floored.disk release mem
    unfold Covered at covered ⊢
    rwa [same.marker,same.builtins]
  · intro durable
    rw [past,same.floor]
    exact floored.durable (same.durable ▸ durable)
  · intro release pending
    rw [past]
    rcases same.candidate with ⟨kept,_⟩ | ⟨dropped,_⟩
    · exact floored.pending release (kept ▸ pending)
    · rw [dropped] at pending
      cases pending
  · intro release sponsor
    rcases same.candidate with ⟨kept,sponsors⟩ | ⟨_,none⟩
    · rw [kept]
      exact floored.sponsored release (sponsors ▸ sponsor)
    · rw [none] at sponsor
      cases sponsor

section
variable (s : LauncherState)

theorem crashed_same (own : Bool) (source reason : String) (write : Persisted) :
    FloorSame s (s.crashed own source reason write) := by
  unfold LauncherState.crashed
  split
  · exact ⟨rfl,rfl,rfl,rfl,rfl,.inr ⟨rfl,rfl⟩⟩
  · exact ⟨rfl,rfl,rfl,rfl,rfl,.inl ⟨rfl,rfl⟩⟩

theorem prepareSpawn_same (nonce : String) : FloorSame s (s.prepareSpawn nonce) :=
  ⟨rfl,rfl,rfl,rfl,rfl,.inl ⟨rfl,rfl⟩⟩

theorem spawnFailed_same : FloorSame s (s.spawnFailed error write) := by
  unfold LauncherState.spawnFailed
  dsimp only
  split
  · have same := crashed_same s true s.currentSpec.id s!"cannot start: {error}" write
    exact {same with}
  · exact ⟨rfl,rfl,rfl,rfl,rfl,.inl ⟨rfl,rfl⟩⟩

theorem spawn_same (nonce : String) (result : Except String Unit) (write : Persisted) :
    FloorSame s (s.spawn nonce result write) := by
  have prepared := prepareSpawn_same s nonce
  cases result with
  | ok _ => exact {prepared with}
  | error error => exact same_trans prepared (spawnFailed_same _)

theorem childExited_same (process : Process) (write : Persisted) : FloorSame s (s.childExited process write) := by
  unfold LauncherState.childExited
  split
  · have same := crashed_same {s with child := none} (process.candidacy = some s.candidacy) s.runningId s.exitReason write
    exact {same with}
  · exact ⟨rfl,rfl,rfl,rfl,rfl,.inl ⟨rfl,rfl⟩⟩

end

end Same

section Steps
variable {s : LauncherState}

theorem mem_past : release ∈ s.past ↔ release ∈ s.remoteCommitted ∨ release ∈ s.builtinsRun := List.mem_append

theorem persist_covers {floor past : ReleaseVersion} (above : past.rank ≤ floor.rank)
    (before : loadReleaseFloor marker = none ∨ (∃ loaded, loadReleaseFloor marker = some loaded ∧ Bounds loaded past) ∨
      Bounds last past) :
    loadReleaseFloor (marker.persist floor.raw write) = none ∨
      (∃ loaded, loadReleaseFloor (marker.persist floor.raw write) = some loaded ∧ Bounds loaded past) ∨ Bounds last past := by
  have written : ∃ loaded, loadReleaseFloor (.text floor.raw) = some loaded ∧ Bounds loaded past :=
    ⟨some floor,load_raw floor,floor,rfl,above⟩
  cases write with
  | done => exact .inr (.inl written)
  | failed error replaced =>
    cases replaced with
    | true => exact .inr (.inl written)
    | false => exact before

def bootFloor (config : Config) (s : LauncherState) (builtin : RuntimeSpec) (others : Table String RuntimeSpec)
    (files : Except String Unit) : Option ReleaseVersion :=
  raiseFloor (raiseFloor ((loadReleaseFloor s.floorMarker).getD none) builtin)
    ((s.recovered config builtin others files).getD builtin)

theorem start_bounds (mem : known ∈ startReleases config s builtin others files) :
    Bounds (bootFloor config s builtin others files) known := by
  simp only [startReleases,List.mem_filterMap,List.mem_cons,List.not_mem_nil,or_false] at mem
  obtain ⟨_,rfl | rfl,release⟩ := mem
  · exact raise_keeps (raise_bounds release)
  · exact raise_bounds release

theorem start_none (nothing : startReleases config s builtin others files = [])
    (damaged : loadReleaseFloor s.floorMarker = none) : bootFloor config s builtin others files = none := by
  have without : ∀ spec ∈ [builtin,(s.recovered config builtin others files).getD builtin], spec.release = none :=
    List.filterMap_eq_nil_iff.mp nothing
  simp only [bootFloor,raiseFloor,damaged,without builtin List.mem_cons_self,
    without _ (List.mem_cons_of_mem _ List.mem_cons_self),Option.getD_none]

theorem upgrade_bounds (upgrades : s.upgrades builtin = true) (below : Bounds s.builtinsRun.head? past) :
    ∃ release, builtin.release = some release ∧ past.rank ≤ release.rank := by
  obtain ⟨_,first,under⟩ := below
  unfold LauncherState.upgrades at upgrades
  split at upgrades
  · rename_i empty
    rw [empty] at first
    cases first
  · rename_i listed
    rw [listed] at first
    cases first
    obtain ⟨release,found,older⟩ := (Option.any_eq_true _ _).mp upgrades
    rw [Bool.not_eq_true_eq_eq_false] at older
    exact ⟨release,found,under.trans (not_newer_iff.mp older)⟩

theorem boot_bounds (floored : Floored s) (trusted : FloorTrusted config s (.boot builtin others files write))
    (upgrades : s.upgrades builtin = true) (mem : past ∈ s.past) :
    Bounds (bootFloor config s builtin others files) past ∨
      bootFloor config s builtin others files = none ∧ loadReleaseFloor s.floorMarker = none := by
  have replaced : Bounds s.builtinsRun.head? past → Bounds (bootFloor config s builtin others files) past := by
    intro below
    obtain ⟨_,found,under⟩ := upgrade_bounds upgrades below
    exact raise_keeps (bounds_trans (raise_bounds found) under)
  rcases floored.disk past mem with damaged | ⟨loaded,read,below⟩ | below
  · rcases trusted damaged with nothing | all
    · exact .inr ⟨start_none nothing damaged,damaged⟩
    · obtain ⟨_,listed,older⟩ := all past mem
      exact .inl (bounds_trans (start_bounds listed) (not_newer_iff.mp older))
  · refine .inl ?_
    unfold bootFloor
    rw [read]
    exact raise_keeps (raise_keeps below)
  · exact .inl (replaced below)

theorem mem_builtins (spec : RuntimeSpec)
    (mem : past ∈ (match spec.release with | some release => release :: earlier | none => earlier)) :
    spec.release = some past ∨ past ∈ earlier := by
  split at mem
  · rename_i found
    rcases List.mem_cons.mp mem with rfl | before
    · exact .inl found
    · exact .inr before
  · exact .inr mem

theorem boot_past (mem : past ∈ (s.boot config builtin others files write).past) :
    past ∈ s.past ∨ builtin.release = some past := by
  rcases mem_past.mp mem with remote | run
  · exact .inl (mem_past.mpr (.inl remote))
  · rcases mem_builtins builtin run with found | before
    · exact .inr found
    · exact .inl (mem_past.mpr (.inr before))

theorem boot_marker (floor : bootFloor config s builtin others files = some release) :
    (s.boot config builtin others files write).floorMarker = s.floorMarker.persist release.raw write := by
  change (match bootFloor config s builtin others files with
    | some floor => s.floorMarker.persist floor.raw write
    | none => s.floorMarker) = _
  rw [floor]

theorem boot_unmarked (floor : bootFloor config s builtin others files = none) :
    (s.boot config builtin others files write).floorMarker = s.floorMarker := by
  change (match bootFloor config s builtin others files with
    | some floor => s.floorMarker.persist floor.raw write
    | none => s.floorMarker) = _
  rw [floor]

theorem boot_head (upgrades : s.upgrades builtin = true) (below : Bounds s.builtinsRun.head? past) :
    Bounds (s.boot config builtin others files write).builtinsRun.head? past := by
  obtain ⟨release,found,under⟩ := upgrade_bounds upgrades below
  change Bounds (match builtin.release with
    | some release => release :: s.builtinsRun
    | none => s.builtinsRun).head? past
  rw [found]
  exact ⟨release,rfl,under⟩

theorem boot_new (found : builtin.release = some past) :
    Bounds (s.boot config builtin others files write).builtinsRun.head? past := by
  change Bounds (match builtin.release with
    | some release => release :: s.builtinsRun
    | none => s.builtinsRun).head? past
  rw [found]
  exact ⟨past,rfl,le_refl _⟩

theorem floor_boot (floored : Floored s) (trusted : FloorTrusted config s (.boot builtin others files write))
    (upgrades : s.upgrades builtin = true) : Floored (s.boot config builtin others files write) := by
  have bounds : ∀ past ∈ (s.boot config builtin others files write).past,
      Bounds (bootFloor config s builtin others files) past ∨
        bootFloor config s builtin others files = none ∧ loadReleaseFloor s.floorMarker = none := by
    intro past mem
    rcases boot_past mem with before | found
    · exact boot_bounds floored trusted upgrades before
    · exact .inl (raise_keeps (raise_bounds found))
  constructor
  · intro past mem
    unfold Covered
    rcases boot_past mem with before | found
    · rcases bounds past mem with ⟨_,same,under⟩ | ⟨nothing,damaged⟩
      · rw [boot_marker same]
        refine persist_covers under ?_
        rcases floored.disk past before with damaged | read | below
        · exact .inl damaged
        · exact .inr (.inl read)
        · exact .inr (.inr (boot_head upgrades below))
      · rw [boot_unmarked nothing]
        exact .inl damaged
    · exact .inr (.inr (boot_new found))
  · intro durable past mem
    change Bounds (bootFloor config s builtin others files) past
    rcases bounds past mem with above | ⟨nothing,damaged⟩
    · exact above
    · change (match bootFloor config s builtin others files with
        | some _ => write.ok
        | none => (loadReleaseFloor _).isSome) = true at durable
      rw [nothing,damaged] at durable
      cases durable
  · intro release pending
    cases pending
  · intro release sponsor
    cases sponsor

theorem commit_past (floored : Floored s) (mem : past ∈ (s.commit pending).past) :
    past ∈ s.past ∨ s.pendingRelease = some past := by
  rcases mem_past.mp mem with remote | run
  · rcases List.mem_append.mp remote with sponsor | before
    · exact .inr (floored.sponsored past sponsor)
    · exact .inl (mem_past.mpr (.inl before))
  · exact .inl (mem_past.mpr (.inr run))

theorem raised_bounds (bounds : Bounds s.committedReleaseFloor past) : Bounds s.raisedFloor past := by
  obtain ⟨floor,same,under⟩ := bounds
  unfold LauncherState.raisedFloor
  rw [same]
  split
  · exact ⟨_,rfl,under.trans max_left⟩
  · exact ⟨floor,rfl,under⟩

theorem raised_pending (release : s.pendingRelease = some version) : Bounds s.raisedFloor version := by
  unfold LauncherState.raisedFloor
  rw [release]
  cases s.committedReleaseFloor with
  | none => exact ⟨version,rfl,le_refl _⟩
  | some floor => exact ⟨_,rfl,max_right⟩

theorem floor_mark (write : Persisted) (floored : Floored s) (release : s.pendingRelease = some version) :
    Floored {s with floorMarker := s.floorMarker.persist version.raw write} :=
  {floored with disk := fun past mem => persist_covers (le_of_lt (floored.pending _ release past mem)) (floored.disk past mem)}

theorem floor_commit (pending : RuntimeSpec) (floored : Floored s)
    (marked : ∀ version, s.pendingRelease = some version → loadReleaseFloor s.floorMarker = some (some version)) :
    Floored (s.commit pending) := by
  constructor
  · intro past mem
    rcases commit_past floored mem with before | release
    · exact floored.disk past before
    · exact .inr (.inl ⟨some past,marked past release,past,rfl,le_refl _⟩)
  · intro durable past mem
    change Bounds s.raisedFloor past
    rcases commit_past floored mem with before | release
    · cases pendingRelease : s.pendingRelease with
      | none =>
        change (s.releaseFloorDurable || s.pendingRelease.isSome) = true at durable
        rw [pendingRelease,Option.isSome_none,Bool.or_false] at durable
        exact raised_bounds (floored.durable durable past before)
      | some version =>
        have under := le_of_lt (floored.pending _ pendingRelease past before)
        exact bounds_trans (raised_pending pendingRelease) under
    · exact raised_pending release
  · intro release pending
    cases pending
  · intro release sponsor
    cases sponsor

theorem floor_persist (floored : Floored s) : Floored (s.persistFloor write) := by
  unfold LauncherState.persistFloor
  split
  · rename_i pending _
    split
    · rename_i release found
      have marked := floor_mark write floored found
      dsimp only
      split
      · rename_i written
        have committed := floor_commit pending marked ?_
        · exact {committed with}
        · intro version same
          cases Option.some.inj (found.symm.trans same)
          cases write with
          | done => exact load_raw release
          | failed error replaced => cases written
      · exact {marked with durable := nofun}
    · rename_i absent
      have committed := floor_commit pending floored (fun _ same => by rw [absent] at same; cases same)
      exact {committed with}
  · exact {floored with}

theorem ensure_newer (newer : s.ensureReleaseIsNewer candidate = .ok ()) : s.releaseFloorDurable = true ∧
    ∀ floor, s.committedReleaseFloor = some floor → floor.rank < candidate.rank := by
  unfold LauncherState.ensureReleaseIsNewer at newer
  split at newer
  · cases newer
  · rename_i durable
    rw [not_not] at durable
    refine ⟨durable,?_⟩
    intro floor same
    split at newer
    · cases newer
    · rename_i above
      rw [same,Option.filter_eq_none_iff] at above
      have passes := above floor rfl
      rw [Bool.not_eq_true',Bool.not_eq_false] at passes
      exact newer_iff.mp passes

theorem ensure_past (floored : Floored s) (newer : s.ensureReleaseIsNewer candidate = .ok ()) (mem : past ∈ s.past) :
    past.rank < candidate.rank := by
  obtain ⟨durable,above⟩ := ensure_newer newer
  obtain ⟨floor,same,under⟩ := floored.durable durable past mem
  exact lt_of_le_of_lt under (above floor same)

theorem switchRelease_some (bound : s.switchRelease runtimeId spec remote = .ok (some release)) :
    remote = true ∧ spec.release = some release ∧ s.ensureReleaseIsNewer release = .ok () := by
  unfold LauncherState.switchRelease at bound
  split at bound
  · rename_i isRemote
    split at bound
    · rename_i version found
      cases checked : s.ensureReleaseIsNewer version with
      | error error => rw [checked] at bound; cases bound
      | ok _ =>
        rw [checked] at bound
        cases bound
        exact ⟨isRemote,found,checked⟩
    · split at bound <;> cases bound
  · cases bound

section
variable (floored : Floored s)
include floored

theorem floor_begin (begun : s.beginSwitch spec release = .ok next)
    (newer : ∀ version, release = some version → ∀ past ∈ s.past, past.rank < version.rank)
    (alone : release.isSome = true → s.pendingIs spec.id = false) : Floored next := by
  rcases begin_cases begun with ⟨_,rfl⟩ | ⟨joined,rfl⟩ | ⟨_,rfl⟩
  · exact floored
  · cases release with
    | none => exact {floored with}
    | some version => rw [alone rfl] at joined; cases joined
  · refine ⟨floored.disk,floored.durable,newer,?_⟩
    intro version sponsor
    exact Option.mem_toList.mp sponsor

theorem floor_switch (trusted : FloorTrusted config s (.switch runtimeId remote files))
    (switched : s.switch config runtimeId remote files = .ok next) : Floored next := by
  obtain ⟨spec,_,found,bound,begun⟩ := switch_parts switched
  have known : Floored {s with known := s.known.insert spec.id spec} :=
    {floored with}
  refine floor_begin known begun ?_ ?_
  · rintro version rfl past mem
    exact ensure_past floored (switchRelease_some bound).2.2 mem
  · intro some_
    obtain ⟨_,rfl⟩ := Option.isSome_iff_exists.mp some_
    obtain ⟨rfl,named,_⟩ := switchRelease_some bound
    exact trusted _ _ found named

theorem floor_step (trusted : FloorTrusted config s action) (move : LauncherMove config s action next) : Floored next := by
  cases move with
  | boot _ upgrades => exact floor_boot floored trusted upgrades
  | @launch nonce result active rollback _ _ _ =>
    have written : Floored (s.writeActive s.currentSpec.id active) := {floored with}
    have same := spawn_same (s.writeActive s.currentSpec.id active) nonce result rollback
    exact same_floored {same with} written
  | @reap exited write _ =>
    unfold LauncherState.reap
    split
    · rename_i process _
      cases exited with
      | true =>
        have same := childExited_same s process write
        exact same_floored {same with} floored
      | false => exact {floored with}
    · exact {floored with}
  | observe =>
    unfold LauncherState.observe
    repeat' split
    all_goals exact {floored with}
  | persistFloor => exact floor_persist floored
  | @respawn nonce result write _ _ _ =>
    unfold LauncherState.respawn
    split
    · have same := spawn_same s nonce result write
      exact same_floored {same with} floored
    · exact {floored with}
  | accept => exact {floored with}
  | connected =>
    unfold LauncherState.runtimeConnected
    split <;> exact {floored with}
  | disconnected =>
    unfold LauncherState.runtimeDisconnected
    split <;> exact {floored with}
  | passed =>
    unfold LauncherState.acceptReady
    split <;> exact {floored with}
  | switched _ accepted => exact floor_switch floored trusted accepted
  | damageFloor damaged =>
    exact {floored with disk := fun _ _ => .inl damaged}
  | _ => exact {floored with}

end

theorem floored_fresh : Floored freshDevice := by
  constructor
  · intro past mem
    cases mem
  · intro durable
    cases durable
  · intro release pending
    cases pending
  · intro release sponsor
    cases sponsor

theorem accepted_parts (accepted : acceptedRelease config s action = some release) :
    s.ensureReleaseIsNewer release = .ok () := by
  unfold acceptedRelease at accepted
  split at accepted
  · split at accepted
    · rename_i switched found
      obtain ⟨_,_,same,released,_⟩ := switch_parts switched
      rw [found] at same
      cases same
      unfold LauncherState.switchRelease at released
      rw [if_pos rfl,accepted] at released
      dsimp only at released
      cases checked : s.ensureReleaseIsNewer release with
      | error error => rw [checked] at released; cases released
      | ok done => rfl
    · cases accepted
  · cases accepted

theorem floor_respected (floored : Floored s) : FloorRespected config s action := by
  constructor
  · intro release accepted past mem
    exact newer_iff.mpr (ensure_past floored (accepted_parts accepted) mem)
  · intro unknown
    cases accepted : acceptedRelease config s action with
    | none => rfl
    | some release =>
      obtain ⟨durable,_⟩ := ensure_newer (accepted_parts accepted)
      exact absurd ⟨durable,floored.durable durable⟩ unknown

end Steps

-- With crashes, failing writes and damaged markers, a remote switch is accepted only to a release
-- newer than everything of the past, and none while the past is not known.
theorem release_floor_monotone (config : Config) (actions : List LauncherAction)
    (trusted : (launcherMachine config).Along (FloorTrusted config) freshDevice actions) :
    (launcherMachine config).Along (FloorRespected config) freshDevice actions :=
  along_of_along (fun _ _ _ floored trusted step => floor_step floored trusted (launcher_moves step))
    (fun _ _ floored _ => floor_respected floored) floored_fresh trusted

section Runs

def exampleConfig : Config := ⟨"/home/user/.coflux",1000⟩

def builtinThree : RuntimeSpec := ⟨"v3.0.0","v3.0.0","/opt/coflux/coflux-runtime",[]⟩

def firstSwitch : List LauncherAction :=
  [.boot builtinThree ∅ (.error "no file") .done,.switch "v4.0.0" true (.ok ())]

theorem release_floor_monotone_first_switch :
    (launcherMachine exampleConfig).Along (FloorRespected exampleConfig) freshDevice firstSwitch ∧
      ((launcherMachine exampleConfig).run freshDevice firstSwitch).map (fun s => s.pending.map RuntimeSpec.id) =
        some (some "v4.0.0") := by
  refine ⟨release_floor_monotone _ _ ⟨nofun,?_⟩,by decide +kernel⟩
  intro next booted
  refine ⟨?_,fun _ _ => True.intro⟩
  intro spec release _ _
  cases booted
  rfl

def wholeProbation (serial generation : Nat) (nonce : String) (unused : List String) : List LauncherAction :=
  [.reap true .done,.observe .done,.respawn (unused.getD 0 "-") (.ok ()) .done,.wait 1000,
    .reap false .done,.observe .done,.respawn nonce (.ok ()) .done,
    .accept (some serial),.connected generation,.ready generation nonce [] (some 8788),.listed generation (.ok []),
    .reached generation (.ok ()),.settleReady generation,.wait 1000,
    .reap false .done,.observe .done,.persistFloor .done,.respawn (unused.getD 1 "-") (.ok ()) .done]

def started : List LauncherAction :=
  [.boot builtinThree ∅ (.error "no file") .done,.launch "nonce-0" (.ok ()) .done .done]

-- A remote switch to v5 joins the candidate an administrator has switched to.
def joinedSwitch : List LauncherAction :=
  started ++ [.register ⟨"v5.0.0","v5.0.0","/opt/coflux/v5/coflux-runtime",[]⟩ (.ok ()),
    .switch "v5.0.0" false (.error "no file"),.switch "v5.0.0" true (.error "no file")] ++
    wholeProbation 1 1 "nonce-1" ["a","b"]

def olderCanary : RuntimeSpec := ⟨"canary","v2.0.0","/opt/coflux/canary/coflux-runtime",[]⟩

-- A remote switch to v5, then an administrator's to an older version; then the marker is damaged.
def damagedStart : List LauncherAction :=
  started ++ .switch "v5.0.0" true (.ok ()) :: wholeProbation 1 1 "nonce-1" ["a","b"] ++
    [.register olderCanary (.ok ()),.switch "canary" false (.error "no file")] ++
    wholeProbation 2 2 "nonce-2" ["c","d"] ++
    [.crash,.damageFloor (.text "?"),.boot builtinThree ∅ (.error "no file") .done]

def acceptedNext (s : LauncherState) (action : LauncherAction) : List String × Option String :=
  (s.past.map ReleaseVersion.raw,(acceptedRelease exampleConfig s action).map ReleaseVersion.raw)

theorem not_respected (accepted : ((launcherMachine exampleConfig).run freshDevice actions).map (fun s =>
      decide ("v5.0.0" ∈ (acceptedNext s action).1) && decide ((acceptedNext s action).2 = some "v4.0.0")) = some true)
    (older : ((ReleaseVersion.parse "v4.0.0").bind fun four => (ReleaseVersion.parse "v5.0.0").map four.isNewerThan) =
      some false) :
    ¬ (launcherMachine exampleConfig).Along (FloorRespected exampleConfig) freshDevice (actions ++ [action]) := by
  intro along
  obtain ⟨s,ran,facts⟩ := Option.map_eq_some_iff.mp accepted
  simp only [Bool.and_eq_true,decide_eq_true_eq,acceptedNext,List.mem_map,Option.map_eq_some_iff] at facts
  obtain ⟨⟨five,mem,fiveRaw⟩,four,switched,fourRaw⟩ := facts
  have newer := (along_at along ran).newer four switched five mem
  rw [← fourRaw,← fiveRaw,parse_raw,parse_raw] at older
  rw [Option.bind_some,Option.map_some,newer] at older
  cases older

theorem older_release_accepted : ¬ (launcherMachine exampleConfig).Along (FloorRespected exampleConfig) freshDevice
        (joinedSwitch ++ [.switch "v4.0.0" true (.ok ())]) ∧
      ¬ (launcherMachine exampleConfig).Along (FloorRespected exampleConfig) freshDevice
        (damagedStart ++ [.switch "v4.0.0" true (.ok ())]) :=
  ⟨not_respected (by decide +kernel) (by decide +kernel),not_respected (by decide +kernel) (by decide +kernel)⟩

end Runs

end Coflux.Launcher
