import Coflux.Runtime.ExitAcks
import Coflux.Sessiond.Snapshot

namespace Coflux.Runtime
open FiniteMap StepMachine Coflux.Sessiond
open CatalogQuery (legacyPage)

structure Partial (seen : Snapshot → Prop) (query : CatalogQuery) : Prop where
  sessionCount : query.nextSessionOffset = query.sessions.length
  exitCount : query.nextExitOffset = query.exits.length
  unbound : query.snapshotOwnerId = "" → query.sessions = [] ∧ query.exits = []
  bound : query.snapshotOwnerId ≠ "" → query.snapshotEpoch < u64Max →
    ∃ snapshot, seen snapshot ∧ snapshot.owner = query.snapshotOwnerId ∧ snapshot.epoch = query.snapshotEpoch ∧
      query.sessions.map DeviceSessionInfo.identity <+: snapshot.identities ∧ query.exits <+: snapshot.exits

def Whole (seen : Snapshot → Prop) (query : CatalogQuery) : Prop :=
  query.snapshotEpoch < u64Max →
    ∃ snapshot, seen snapshot ∧ snapshot.owner = query.snapshotOwnerId ∧ snapshot.epoch = query.snapshotEpoch ∧
      query.sessions.map DeviceSessionInfo.identity = snapshot.identities ∧ query.exits = snapshot.exits

theorem assembly_rule : QueryRule (fun _ => Partial seen) (fun _ => Whole seen) := by
  refine ⟨?_,?_,?_,?_⟩
  · intro n wire
    exact ⟨rfl,rfl,fun _ => ⟨rfl,rfl⟩,fun named => absurd rfl named⟩
  · exact fun n query _ good => {good with}
  · exact fun n query again good => {good with}
  · exact fun n _ _ good => good

theorem prefix_append_drop (first : front <+: list) (second : back <+: list.drop front.length) : front ++ back <+: list := by
  obtain ⟨_,rfl⟩ := first
  rw [List.drop_left] at second
  exact (List.prefix_append_right_inj front).mpr second

theorem offsets_parts {query : CatalogQuery} (current : legacyPage catalog = false)
    (matched : query.offsetsMatch catalog = true) :
    catalog.sessionOffset = query.nextSessionOffset ∧ catalog.exitOffset = query.nextExitOffset ∧
    catalog.sessionOffset + catalog.sessions.length = catalog.nextSessionOffset ∧
    catalog.exitOffset + catalog.exits.length = catalog.nextExitOffset := by
  simp only [CatalogQuery.offsetsMatch,current,Bool.false_or,Bool.and_eq_true,decide_eq_true_eq] at matched
  obtain ⟨⟨⟨⟨⟨_,_⟩,_⟩,_⟩,_⟩,_⟩ := matched
  omega

theorem taken_continues (chronicle : Chronicle seen s) (known : seen snapshot)
    (cut : CutFrom snapshot catalog) (current : legacyPage catalog = false)
    (taken : Taken codec r key query catalog) (good : Partial seen query) (small : catalog.snapshotEpoch < u64Max) :
    (query.sessions ++ catalog.sessions).map DeviceSessionInfo.identity <+: snapshot.identities ∧
      query.exits ++ catalog.exits <+: snapshot.exits := by
  obtain ⟨sessionAt,exitAt,sessionEnd,exitEnd⟩ := offsets_parts current taken.offsets
  have sessions := cut.sessions sessionEnd
  have exits := cut.exits exitEnd
  rw [sessionAt,good.sessionCount] at sessions
  rw [exitAt,good.exitCount] at exits
  -- What the query has is a part of this very snapshot.
  have before : query.sessions.map DeviceSessionInfo.identity <+: snapshot.identities ∧ query.exits <+: snapshot.exits := by
    by_cases first : query.snapshotOwnerId = ""
    · obtain ⟨noSessions,noExits⟩ := good.unbound first
      rw [noSessions,noExits]
      exact ⟨List.nil_prefix,List.nil_prefix⟩
    · have matched := taken.epoch
      simp only [CatalogQuery.epochMatches,current,first,Bool.false_or,decide_false,Bool.and_eq_true,
        decide_eq_true_eq] at matched
      obtain ⟨other,seenOther,_,epoch,live,dead⟩ := good.bound first (matched.2 ▸ small)
      have same : other = snapshot := by
        apply chronicle.unique other snapshot seenOther known
        · rw [epoch,matched.2,cut.epoch]
        · rw [epoch,matched.2]
          exact small
      exact same ▸ ⟨live,dead⟩
  refine ⟨?_,prefix_append_drop before.2 exits⟩
  rw [List.map_append]
  exact prefix_append_drop before.1 (by rw [List.length_map]; exact sessions)

theorem extended_lists (codec : DeviceCodec) (query : CatalogQuery) (current : legacyPage catalog = false) :
    (query.extended codec catalog).sessions = query.sessions ++ catalog.sessions ∧
    (query.extended codec catalog).exits = query.exits ++ catalog.exits ∧
    (query.extended codec catalog).nextSessionOffset = catalog.nextSessionOffset ∧
    (query.extended codec catalog).nextExitOffset = catalog.nextExitOffset := by
  simp [CatalogQuery.extended,current]

section Page
section
variable (chronicle : Chronicle seen s) (known : seen snapshot) (cut : CutFrom snapshot catalog)
include chronicle known cut

theorem extended_partial (named : catalog.snapshotOwnerId ≠ "") (current : legacyPage catalog = false)
    (taken : Taken codec r key query catalog) (good : Partial seen query) : Partial seen (query.extended codec catalog) := by
  obtain ⟨sessions,exits,nextSession,nextExit⟩ := extended_lists _ _ current
  obtain ⟨owner,epoch⟩ := extended_stamp current taken.epoch
  obtain ⟨_,_,_,_⟩ := offsets_parts current taken.offsets
  have counted := good.sessionCount
  have countedExits := good.exitCount
  refine ⟨?_,?_,?_,?_⟩
  · rw [nextSession,sessions,List.length_append]
    omega
  · rw [nextExit,exits,List.length_append]
    omega
  · intro unnamed
    rw [owner] at unnamed
    exact absurd unnamed named
  · intro _ small
    rw [epoch] at small
    obtain ⟨live,dead⟩ := taken_continues chronicle known cut current taken good small
    rw [owner,epoch,sessions,exits]
    exact ⟨snapshot,known,cut.owner.symm,cut.epoch.symm,live,dead⟩

theorem extended_whole (current : legacyPage catalog = false) (complete : catalog.complete = true)
    (taken : Taken codec r key query catalog) (good : Partial seen query) : Whole seen (query.extended codec catalog) := by
  obtain ⟨sessions,exits,_,_⟩ := extended_lists _ _ current
  obtain ⟨owner,epoch⟩ := extended_stamp current taken.epoch
  obtain ⟨_,_,_,_⟩ := offsets_parts current taken.offsets
  obtain ⟨_,_⟩ := cut.complete complete
  have counted := good.sessionCount
  have countedExits := good.exitCount
  intro small
  rw [epoch] at small
  obtain ⟨live,dead⟩ := taken_continues chronicle known cut current taken good small
  rw [owner,epoch,sessions,exits]
  refine ⟨snapshot,known,cut.owner.symm,cut.epoch.symm,live.eq_of_length ?_,dead.eq_of_length ?_⟩
  · rw [List.length_map,List.length_append]
    omega
  · rw [List.length_append]
    omega

end

theorem extended_advances (current : legacyPage catalog = false) (more : catalog.complete = false)
    (taken : Taken codec r key query catalog) :
    query.nextSessionOffset ≤ (query.extended codec catalog).nextSessionOffset ∧
    query.nextExitOffset ≤ (query.extended codec catalog).nextExitOffset ∧
    query.nextSessionOffset + query.nextExitOffset <
      (query.extended codec catalog).nextSessionOffset + (query.extended codec catalog).nextExitOffset := by
  obtain ⟨_,_,_,_⟩ := extended_lists codec query current
  obtain ⟨_,_,_,_⟩ := offsets_parts current taken.offsets
  have progressed := taken.progressed
  simp only [CatalogQuery.pageProgressed,current,more,Bool.false_or,Bool.or_eq_true,decide_eq_true_eq] at progressed
  omega

end Page

def Snapped (seen : CatalogSystem → Prop) (snapshot : Snapshot) : Prop :=
  ∃ earlier, seen earlier ∧ earlier.sessions.snapshot = snapshot

theorem snapped_more :
    Snapped (fun visited => seen visited ∨ visited = next) =
      fun snapshot => Snapped seen snapshot ∨ snapshot = next.sessions.snapshot := by
  funext snapshot
  apply propext
  constructor
  · rintro ⟨earlier,known | rfl,rfl⟩
    · exact .inl ⟨earlier,known,rfl⟩
    · exact .inr rfl
  · rintro (⟨earlier,known,rfl⟩ | rfl)
    · exact ⟨earlier,.inl known,rfl⟩
    · exact ⟨next,.inr rfl,rfl⟩

structure Assembly (seen : CatalogSystem → Prop) (s : CatalogSystem) : Prop where
  sessions : SessionsInvariant s.sessions
  chronicle : Chronicle (Snapped seen) s.sessions
  pages : ∀ channelId catalog, (channelId,.sessionCatalog catalog) ∈ s.sessions.outbound →
    ∃ snapshot, Snapped seen snapshot ∧ CutFrom snapshot catalog
  collects : Collects (fun _ => Partial (Snapped seen)) (fun _ => Whole (Snapped seen)) s.runtime

theorem Partial.mono (wider : ∀ snapshot, seen snapshot → more snapshot)
    (good : Partial seen query) : Partial more query := by
  refine {good with bound := ?_}
  intro named small
  obtain ⟨snapshot,known,parts⟩ := good.bound named small
  exact ⟨snapshot,wider _ known,parts⟩

theorem Whole.mono (wider : ∀ snapshot, seen snapshot → more snapshot) (good : Whole seen query) : Whole more query := by
  intro small
  obtain ⟨snapshot,known,parts⟩ := good small
  exact ⟨snapshot,wider _ known,parts⟩

theorem system_snapshot (move : SystemMove codec s next) :
    SameOrNext s.sessions next.sessions ∧
    ∀ channelId catalog, (channelId,.sessionCatalog catalog) ∈ next.sessions.outbound →
      (channelId,.sessionCatalog catalog) ∈ s.sessions.outbound ∨ CutFrom s.sessions.snapshot catalog := by
  cases move with
  | sessiond action => exact ⟨sessionsStep_snapshot,fun _ _ sent => sessionsStep_cut sent⟩
  | _ => exact ⟨.inl rfl,fun _ _ sent => .inl sent⟩

theorem assembly_step (valid : Assembly seen s) (step : catalogStep codec s action = some next) :
    Assembly (fun visited => seen visited ∨ visited = next) next := by
  have move := catalogStep_move step
  obtain ⟨epoch,posted⟩ := system_snapshot move
  have wider : ∀ snapshot, Snapped seen snapshot → Snapped (fun visited => seen visited ∨ visited = next) snapshot := by
    rintro snapshot ⟨earlier,known,same⟩
    exact ⟨earlier,.inl known,same⟩
  refine ⟨?_,?_,?_,?_⟩
  · cases move with
    | sessiond action => exact sessionsStep_invariant valid.sessions
    | _ => exact valid.sessions
  · rw [snapped_more]
    exact chronicle_step valid.chronicle epoch
  · intro channelId catalog sent
    rcases posted channelId catalog sent with earlier | cut
    · obtain ⟨snapshot,known,cut⟩ := valid.pages _ _ earlier
      exact ⟨snapshot,wider _ known,cut⟩
    · exact ⟨_,wider _ valid.chronicle.current,cut⟩
  · have kept : Collects (fun _ => Partial (Snapped seen)) (fun _ => Whole (Snapped seen)) next.runtime := by
      refine system_collects (fun _ _ => Partial (Snapped seen)) (fun _ _ => Whole (Snapped seen))
        assembly_rule ?_ ?_ (fun _ _ _ good => good) (fun _ _ _ good => good) valid.collects move
      · intro catalog sent key query taken good more current
        obtain ⟨snapshot,known,cut⟩ := valid.pages _ _ sent
        have named : catalog.snapshotOwnerId ≠ "" := valid.sessions.owners _ _ sent ▸ s.sessions.owned
        exact extended_partial valid.chronicle known cut named current taken good
      · intro catalog sent key query taken good last
        obtain ⟨_,known,cut⟩ := valid.pages _ _ sent
        have current := not_legacyPage valid.sessions sent
        have complete : catalog.complete = true := by simpa [current] using last
        exact extended_whole valid.chronicle known cut current complete taken good
    exact kept.mono (fun _ _ good => good.mono wider) (fun _ _ good => good.mono wider)

theorem catalogStart_assembly :
    Assembly (· = catalogStart runtimeId sessiondId owner owned) (catalogStart runtimeId sessiondId owner owned) := by
  have only : Snapped (· = catalogStart runtimeId sessiondId owner owned) =
      (· = (Sessions.new sessiondId owner owned).snapshot) := by
    funext snapshot
    apply propext
    constructor
    · rintro ⟨_,rfl,rfl⟩
      rfl
    · rintro rfl
      exact ⟨_,rfl,rfl⟩
  refine ⟨sessions_new_invariant,?_,(by intro channelId catalog sent; cases sent),new_collects⟩
  rw [only]
  exact chronicle_new

structure Accepts (codec : DeviceCodec) (r : CatalogRuntime) (key : String) (query : CatalogQuery)
    (catalog : DeviceSessionCatalog) : Prop where
  found : r.findQuery catalog.requestId = some (key,query)
  kept : catalog.reset = false
  newer : query.stalePage catalog = false
  tests : (query.epochMatches catalog && query.offsetsMatch catalog && CatalogQuery.pageProgressed catalog &&
    query.withinBounds codec (r.pending.remove key) key catalog) = true

theorem Accepts.taken (accepts : Accepts codec r key query catalog) : Taken codec r key query catalog := by
  obtain ⟨here,wire⟩ := findQuery_lookup accepts.found
  have tests := accepts.tests
  simp only [Bool.and_eq_true] at tests
  exact ⟨here,wire,accepts.kept,tests.1.1.1,tests.1.1.2,tests.1.2,tests.2⟩

theorem accepts_handled (accepts : Accepts codec r key query catalog)
    (current : legacyPage catalog = false) (more : catalog.complete = false) :
    r.handleCatalogPage codec catalog now room =
      {r with pending := r.pending.insert key (query.extended codec catalog)}.sendCatalogPage key now room := by
  simp only [CatalogRuntime.handleCatalogPage,accepts.found,accepts.kept,accepts.newer,accepts.tests,current,more]
  rfl

-- Below the epoch counter's last value a committed catalog is the snapshot of one epoch, and every
-- page accepted before the last moves the query on.
theorem catalog_is_snapshot
    (ran : (catalogMachine codec).run (catalogStart runtimeId sessiondId owner owned) actions = some s) :
    (∀ completion ∈ s.runtime.completions, completion.query.snapshotEpoch < u64Max →
      ∃ earlier, (catalogMachine codec).Visits (catalogStart runtimeId sessiondId owner owned) actions earlier ∧
        completion.query.snapshotOwnerId = earlier.sessions.snapshotOwnerId ∧
        completion.query.snapshotEpoch = earlier.sessions.snapshotEpoch ∧
        completion.query.sessions.map DeviceSessionInfo.identity = earlier.sessions.snapshot.identities ∧
        completion.query.exits = earlier.sessions.tombstones.entries) ∧
    (∀ channelId catalog, (channelId,.sessionCatalog catalog) ∈ s.sessions.outbound → catalog.complete = false →
      ∀ key query, Accepts codec s.runtime key query catalog →
        (∀ now room, s.runtime.handleCatalogPage codec catalog now room =
          {s.runtime with pending := s.runtime.pending.insert key (query.extended codec catalog)}.sendCatalogPage
            key now room) ∧
        query.nextSessionOffset ≤ (query.extended codec catalog).nextSessionOffset ∧
        query.nextExitOffset ≤ (query.extended codec catalog).nextExitOffset ∧
        query.nextSessionOffset + query.nextExitOffset <
          (query.extended codec catalog).nextSessionOffset + (query.extended codec catalog).nextExitOffset) := by
  have valid : Assembly ((catalogMachine codec).Visits (catalogStart runtimeId sessiondId owner owned) actions) s :=
    run_remembers catalogStart_assembly (fun _ _ _ _ valid step => assembly_step valid step) ran
  refine ⟨?_,?_⟩
  · intro completion mem small
    obtain ⟨_,⟨earlier,visited,rfl⟩,owner,epoch,sessions,exits⟩ := valid.collects.extracted _ mem small
    exact ⟨earlier,visited,owner.symm,epoch.symm,sessions,exits⟩
  · intro channelId catalog sent more key query accepts
    have current := not_legacyPage valid.sessions sent
    exact ⟨fun _ _ => accepts_handled accepts current more,extended_advances current more accepts.taken⟩

-- A codec under which a page of the runtime's size holds one entry.
def bulkyCodec : DeviceCodec where
  envelopeLen
    | _,.sessionCatalog catalog => 400 * 1024 * (catalog.sessions.length + catalog.exits.length)
    | _,.error _ _ _ => 0
  sessionLen _ := 400 * 1024
  exitLen _ := 400 * 1024

def shellHandle (arc : Nat) : SessionHandle := ⟨arc,"task",1,"/",0⟩

def interruptedQuery : List CatalogAction :=
  [.runtime .connected,.sessiond (.started "b" (shellHandle 1)),.sessiond (.started "c" (shellHandle 2)),
    .runtime (.requestServer "query" 0 true),.deliverRequest 0 quietReading true,
    .sessiond (.started "a" (shellHandle 3)),.deliverAnswer 0 0 true,.deliverRequest 1 quietReading true,
    .deliverAnswer 1 0 true,.deliverRequest 2 quietReading true,.deliverAnswer 2 0 true]

theorem catalog_is_snapshot_restarted :
    ∃ s, (catalogMachine bulkyCodec).run (catalogStart 1 2 "owner" (by decide))
        (interruptedQuery ++ [.deliverRequest 3 quietReading true,.deliverAnswer 3 0 true,
          .deliverRequest 4 quietReading true,.deliverAnswer 4 0 true]) = some s ∧
      s.runtime.completions.map (fun completion => completion.query.sessions.map (·.sessionId)) = [["a","b","c"]] ∧
      ∀ completion ∈ s.runtime.completions, completion.query.snapshotEpoch < u64Max →
        ∃ earlier, (catalogMachine bulkyCodec).Visits (catalogStart 1 2 "owner" (by decide))
            (interruptedQuery ++ [.deliverRequest 3 quietReading true,.deliverAnswer 3 0 true,
              .deliverRequest 4 quietReading true,.deliverAnswer 4 0 true]) earlier ∧
          completion.query.snapshotOwnerId = earlier.sessions.snapshotOwnerId ∧
          completion.query.snapshotEpoch = earlier.sessions.snapshotEpoch ∧
          completion.query.sessions.map DeviceSessionInfo.identity = earlier.sessions.snapshot.identities ∧
          completion.query.exits = earlier.sessions.tombstones.entries := by
  have ran : (catalogMachine bulkyCodec).run (catalogStart 1 2 "owner" (by decide))
      (interruptedQuery ++ [.deliverRequest 3 quietReading true,.deliverAnswer 3 0 true,
        .deliverRequest 4 quietReading true,.deliverAnswer 4 0 true]) = some _ := rfl
  exact ⟨_,ran,by decide +kernel,(catalog_is_snapshot ran).1⟩

def pastExits (count : Nat) (store : TombstoneStore) : Sessions :=
  {Sessions.new 2 "owner" (by decide) with tombstones := store,nextEventId := count,snapshotEpoch := count + 1}

theorem exits_raise_epoch (count : Nat) (below : count + 1 ≤ u64Max) :
    ∃ store, store.Counted ∧ (catalogMachine codec).run (catalogStart 1 2 "owner" (by decide))
        (List.replicate count (.sessiond (.recoveredExit "shell" "task" ⟨0,0,0⟩))) =
          some ⟨pastExits count store,.new 1⟩ := by
  induction count with
  | zero => exact ⟨.empty,rfl,rfl⟩
  | succ count ih =>
    obtain ⟨store,counted,ran⟩ := ih (by omega)
    let event := (pastExits count store).tombstone "shell" "task" ⟨0,0,0⟩
    refine ⟨store.push event,TombstoneStore.push_counted counted,?_⟩
    have bumped : min (count + 1 + 1) u64Max = count + 1 + 1 := Nat.min_eq_left below
    have step : (catalogMachine codec).step ⟨pastExits count store,.new 1⟩
        (.sessiond (.recoveredExit "shell" "task" ⟨0,0,0⟩)) = some ⟨pastExits (count + 1) (store.push event),.new 1⟩ := by
      simp only [catalogMachine,catalogStep,sessionsStep,Sessions.recoveredExit,Sessions.entomb,
        Sessions.bumpSnapshotEpoch,pastExits,bumped,event]
    rw [List.replicate_succ']
    exact (run_append ran).trans ((run_cons step).trans rfl)

theorem acknowledge_all {store : TombstoneStore} (counted : store.Counted) :
    (store.acknowledge ("exit" :: store.entries.map (·.eventId))).2 = .empty := by
  have gone : (store.acknowledge ("exit" :: store.entries.map (·.eventId))).2.entries = [] := by
    rw [TombstoneStore.acknowledge_entries,List.filter_eq_nil_iff]
    intro event mem
    have listed : event.eventId ∈ store.entries.map (·.eventId) := List.mem_map_of_mem mem
    simp only [List.contains_eq_mem,List.mem_cons,listed,or_true,decide_true,Bool.not_true,Bool.false_eq_true,
      not_false_eq_true]
  have weighed : (store.acknowledge ("exit" :: store.entries.map (·.eventId))).2.Counted :=
    TombstoneStore.acknowledge_counted counted
  generalize (store.acknowledge ("exit" :: store.entries.map (·.eventId))).2 = kept at gone weighed
  cases kept
  simp only [TombstoneStore.Counted] at gone weighed
  subst gone
  rw [weighed]
  rfl

theorem exits_cleared {store : TombstoneStore} (counted : store.Counted) :
    (pastExits (u64Max - 1) store).deviceExitAck ⟨"exit" :: store.entries.map (·.eventId),"","",0⟩ =
      pastExits (u64Max - 1) .empty := by
  have full : min (u64Max - 1 + 1 + 1) u64Max = u64Max - 1 + 1 := by decide
  simp [Sessions.deviceExitAck,Sessions.acknowledged,pastExits,acknowledge_all counted,Sessions.bumpSnapshotEpoch,full]

-- At the counter's last value the second page is cut from another directory: b is published twice
-- and a not at all.
theorem catalog_mixed_at_last_epoch :
    ∃ actions s, (catalogMachine bulkyCodec).run (catalogStart 1 2 "owner" (by decide)) actions = some s ∧
      s.runtime.published.map (fun publication => publication.catalog.sessions.map (·.sessionId)) = [["b","b","c"]] ∧
      s.sessions.snapshot.identities.map (·.sessionId) = ["a","b","c"] := by
  obtain ⟨store,counted,ran⟩ := exits_raise_epoch (u64Max - 1) (by decide)
  obtain ⟨s,finished,published,held⟩ : ∃ s, (catalogMachine bulkyCodec).run ⟨pastExits (u64Max - 1) .empty,.new 1⟩
      (interruptedQuery ++ List.replicate 10 (.runtime (.commit 0 [] true 0 true))) = some s ∧
      s.runtime.published.map (fun publication => publication.catalog.sessions.map (·.sessionId)) = [["b","b","c"]] ∧
      s.sessions.snapshot.identities.map (·.sessionId) = ["a","b","c"] :=
    ⟨_,rfl,by decide +kernel,by decide +kernel⟩
  have acked : (catalogMachine bulkyCodec).step ⟨pastExits (u64Max - 1) store,.new 1⟩
      (.sessiond (.exitAck ⟨"exit" :: store.entries.map (·.eventId),"","",0⟩)) =
        some ⟨pastExits (u64Max - 1) .empty,.new 1⟩ := by
    simp only [catalogMachine,catalogStep,sessionsStep,exits_cleared counted]
  exact ⟨_,s,(run_append ran).trans ((run_cons acked).trans finished),published,held⟩

end Coflux.Runtime
