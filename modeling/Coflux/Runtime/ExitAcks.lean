import Coflux.Runtime.Catalog

namespace Coflux.Runtime
open FiniteMap StepMachine Coflux.Sessiond

structure Publishes (r : CatalogRuntime) : Prop where
  done : ∀ publication ∈ r.published, ∃ completion ∈ r.completions,
    publication = ⟨completion.query.wireRequestId,completion.catalog⟩
  planned : ∀ completion ∈ r.completions, ∀ remaining, completion.stage = .effecting remaining →
    ∀ catalog, .publish catalog ∈ remaining → catalog = completion.catalog

section Publishing
variable {r : CatalogRuntime}

theorem setCompletion_kept (present : r.completions[index]? = some old) (query : new.query = old.query)
    (logical : new.logicalRequestId = old.logicalRequestId) (mem : completion ∈ r.completions) :
    ∃ kept ∈ (r.setCompletion index new).completions, kept.query = completion.query ∧
      kept.logicalRequestId = completion.logicalRequestId := by
  obtain ⟨place,inside⟩ := List.getElem?_of_mem mem
  by_cases same : index = place
  · subst same
    have bound : index < r.completions.length := (List.getElem?_eq_some_iff.mp present).1
    rw [present] at inside
    cases inside
    refine ⟨new,?_,query,logical⟩
    exact List.mem_of_getElem? (List.getElem?_set_self bound)
  · refine ⟨completion,?_,rfl,rfl⟩
    exact List.mem_of_getElem? ((List.getElem?_set_ne same).trans inside)

theorem catalog_eq {one two : Completion} (query : one.query = two.query)
    (logical : one.logicalRequestId = two.logicalRequestId) : one.catalog = two.catalog := by
  simp only [Completion.catalog,query,logical]

theorem setCompletion_publishes (valid : Publishes r) (present : r.completions[index]? = some old)
    (query : new.query = old.query) (logical : new.logicalRequestId = old.logicalRequestId)
    (planned : ∀ remaining, new.stage = .effecting remaining → ∀ c, .publish c ∈ remaining → c = old.catalog) :
    Publishes (r.setCompletion index new) := by
  constructor
  · intro publication mem
    obtain ⟨completion,here,rfl⟩ := valid.done _ mem
    obtain ⟨kept,there,same,named⟩ := setCompletion_kept present query logical here
    exact ⟨kept,there,by rw [same,catalog_eq same named]⟩
  · intro completion mem remaining stage c publishes
    rcases List.mem_or_eq_of_mem_set mem with earlier | rfl
    · exact valid.planned _ earlier _ stage c publishes
    · rw [catalog_eq query logical]
      exact planned _ stage c publishes

theorem perform_publishes (valid : Publishes r) (mem : completion ∈ r.completions)
    (own : ∀ catalog, effect = .publish catalog → catalog = completion.catalog) :
    Publishes (r.perform completion accepted effect) ∧
      (r.perform completion accepted effect).completions = r.completions := by
  cases effect with
  | publish catalog =>
    unfold CatalogRuntime.perform
    simp only
    split
    · refine ⟨⟨?_,valid.planned⟩,rfl⟩
      intro publication published
      rcases List.mem_append.mp published with earlier | new
      · exact valid.done _ earlier
      · rw [List.mem_singleton.mp new,own catalog rfl]
        exact ⟨completion,mem,rfl⟩
    · exact ⟨valid,rfl⟩
  | _ => exact ⟨{valid with},rfl⟩

theorem plan_publishes (completion : Completion) (planned : .publish catalog ∈ completion.plan changed fresh derived) :
    catalog = completion.catalog := by
  simp only [Completion.plan,List.mem_append,List.mem_map,List.mem_flatMap,List.mem_cons] at planned
  rcases planned with ((⟨_,_,stale⟩ | ⟨_,_,live⟩) | ⟨_,_,exit⟩) | last
  · cases stale
  · rcases live with cancel | owed
    · cases cancel
    · split at owed <;> simp at owed
  · cases exit
  · split at last
    · simp at last
    · simpa using last

section
variable (valid : Publishes r)
include valid

theorem commit_publishes (present : r.completions[index]? = some completion)
    (move : CommitMove r index completion next) : Publishes next := by
  have mem := List.mem_of_getElem? present
  have staged : ∀ stage, (∀ remaining, stage ≠ .effecting remaining) →
      Publishes (r.setCompletion index {completion with stage := stage}) := by
    intro stage other
    refine setCompletion_publishes valid present rfl rfl ?_
    intro remaining same
    exact absurd same (other _)
  cases move with
  | enter stage free =>
    obtain ⟨done,planned⟩ := staged .gated (by intro remaining same; cases same)
    exact ⟨done,planned⟩
  | admitted stage same => exact staged _ (by intro remaining same; cases same)
  | reject stage other =>
    obtain ⟨done,planned⟩ := staged .rejected (by intro remaining same; cases same)
    exact ⟨done,planned⟩
  | replace stage =>
    rename_i accepted
    obtain ⟨performed,same⟩ : Publishes (r.perform completion accepted (.replaceAlive completion.newAlive)) ∧ _ :=
      perform_publishes valid mem (by intro catalog publishes; cases publishes)
    refine setCompletion_publishes performed ((congrArg (·[index]?) same).trans present) rfl rfl ?_
    intro remaining same
    cases same
  | collect stage =>
    refine setCompletion_publishes valid present rfl rfl ?_
    rintro remaining ⟨⟩ catalog publishes
    exact plan_publishes _ publishes
  | effect stage =>
    rename_i effect _ accepted
    have own := valid.planned _ mem _ stage
    obtain ⟨performed,same⟩ : Publishes (r.perform completion accepted effect) ∧ _ :=
      perform_publishes valid mem (fun catalog same => own catalog (same ▸ List.mem_cons_self))
    refine setCompletion_publishes performed ((congrArg (·[index]?) same).trans present) rfl rfl ?_
    rintro remaining ⟨⟩ catalog publishes
    exact own catalog (List.mem_cons_of_mem _ publishes)
  | release stage =>
    obtain ⟨done,planned⟩ := staged .finished (by intro remaining same; cases same)
    exact ⟨done,planned⟩
  | rerun stage =>
    obtain ⟨done,planned⟩ := staged .finished (by intro remaining same; cases same)
    obtain ⟨completions,_,_,published,_⟩ := sendCatalogPage_untouched (r :=
      {r.setCompletion index {completion with stage := .finished} with gate := none})
    exact ⟨published ▸ completions ▸ done,completions ▸ planned⟩

theorem untouched_publishes (same : Untouched r next) : Publishes next := by
  refine ⟨?_,?_⟩
  · rw [same.published,same.completions]
    exact valid.done
  · rw [same.completions]
    exact valid.planned

theorem extracted_publishes (added : Extracted r next completion) : Publishes next := by
  refine ⟨?_,?_⟩
  · intro publication mem
    rw [added.published] at mem
    obtain ⟨completion,here,same⟩ := valid.done _ mem
    exact ⟨completion,added.completions ▸ List.mem_append_left _ here,same⟩
  · intro other mem remaining stage
    rw [added.completions] at mem
    rcases List.mem_append.mp mem with earlier | new
    · exact valid.planned _ earlier _ stage
    · rw [List.mem_singleton.mp new,added.stage] at stage
      cases stage

theorem auth_publishes (move : AuthMove r index stage next) : Publishes next := by
  cases move with
  | enter | advance | clear => exact {valid with}
  | release =>
    refine untouched_publishes ?_ sendCatalogPage_untouched
    exact {valid with}

theorem view_publishes (view : CommitView r next) : Publishes next := by
  cases view with
  | untouched same => exact untouched_publishes valid same
  | extracted added => exact extracted_publishes valid added
  | committed present move => exact commit_publishes valid present move
  | arrived => exact {valid with}
  | authenticated present move => exact auth_publishes valid move

end

end Publishing

def Completes (s : Sessions) (_ : Nat) (query : CatalogQuery) : Prop :=
  CompletedUnder s query.wireRequestId query.snapshotOwnerId query.snapshotEpoch

theorem completes_rule : QueryRule (fun _ _ => True) (Completes s) :=
  ⟨fun _ _ => True.intro,fun _ _ _ _ => True.intro,fun _ _ _ _ => True.intro,fun _ _ _ done => done⟩

structure AckInvariant (s : CatalogSystem) : Prop where
  sessions : SessionsInvariant s.sessions
  collects : Collects (fun _ _ => True) (Completes s.sessions) s.runtime
  publishes : Publishes s.runtime

theorem extended_completes (valid : SessionsInvariant s) (sent : (internalChannelId,.sessionCatalog catalog) ∈ s.outbound)
    (taken : Taken codec r key query catalog) (last : CatalogQuery.legacyPage catalog = true ∨ catalog.complete = true) :
    Completes s n (query.extended codec catalog) := by
  have current := not_legacyPage valid sent
  have complete : catalog.complete = true := by
    rcases last with legacy | complete
    · rw [current] at legacy
      cases legacy
    · exact complete
  obtain ⟨owner,epoch⟩ := extended_stamp current taken.epoch
  exact ⟨_,catalog,sent,complete,taken.wire.symm,owner.symm,epoch.symm⟩

theorem ack_invariant_step (valid : AckInvariant s) (step : catalogStep codec s action = some next) : AckInvariant next := by
  have move := catalogStep_move step
  refine ⟨?_,?_,view_publishes valid.publishes (catalogStep_view step)⟩
  · cases move with
    | sessiond action => exact sessionsStep_invariant valid.sessions
    | _ => exact valid.sessions
  · refine system_collects (fun _ _ _ => True) Completes completes_rule ?_ ?_ ?_ ?_ valid.collects move
    · intro catalog sent key query taken _ _ _
      exact True.intro
    · intro catalog sent key query taken _ last
      exact extended_completes valid.sessions sent taken last
    · exact fun _ _ _ _ => True.intro
    · exact fun _ n _ done => completed_mono sessionsStep_outbound done

def catalogStart (runtimeId sessiondId : Nat) (owner : String) (owned : owner ≠ "") : CatalogSystem :=
  ⟨.new sessiondId owner owned,.new runtimeId⟩

theorem catalogStart_acks : AckInvariant (catalogStart runtimeId sessiondId owner owned) :=
  ⟨sessions_new_invariant,new_collects, ⟨(by intro publication mem; cases mem),(by intro completion mem; cases mem)⟩⟩

theorem ack_invariant_run (ran : (catalogMachine codec).run (catalogStart runtimeId sessiondId owner owned) actions = some s) :
    AckInvariant s :=
  run_preserves (fun _ _ _ valid step => ack_invariant_step valid step) catalogStart_acks ran

theorem catalogStep_sessions (step : catalogStep codec s action = some next) :
    next.sessions = s.sessions ∨
    (∃ own, action = .sessiond own ∧ next.sessions = sessionsStep codec s.sessions own) ∨
    (∃ index reading room request, action = .deliverRequest index reading room ∧
      s.runtime.toSupervisor[index]? = some request ∧
      next.sessions = sessionsStep codec s.sessions (.catalog reading room internalChannelId request)) := by
  cases action with
  | sessiond own => cases step; exact .inr (.inl ⟨own,rfl,rfl⟩)
  | deliverRequest index reading room =>
    simp only [catalogStep,Option.bind_eq_bind,Option.bind_eq_some_iff] at step
    obtain ⟨request,present,⟨⟩⟩ := step
    exact .inr (.inr ⟨index,reading,room,request,rfl,present,rfl⟩)
  | deliverAnswer index now room =>
    simp only [catalogStep,Option.bind_eq_bind,Option.bind_eq_some_iff] at step
    obtain ⟨⟨_,_⟩,_,step⟩ := step
    simp only at step
    split at step
    · split at step <;> cases step <;> exact .inl rfl
    · cases step
  | runtime action =>
    simp only [catalogStep,Option.bind_eq_bind,Option.bind_eq_some_iff] at step
    obtain ⟨_,_,⟨⟩⟩ := step
    exact .inl rfl

def SparesLeaseOf (requestId : String) (s : CatalogSystem) : CatalogAction → Prop
  | .sessiond action => SparesLease requestId s.sessions action
  | .deliverRequest index reading room => ∀ request, s.runtime.toSupervisor[index]? = some request →
      SparesLease requestId s.sessions (.catalog reading room internalChannelId request)
  | _ => True

def HoldsLease (requestId : String) (lease : CatalogLease) (s : CatalogSystem) : Prop :=
  s.sessions.catalogLeases.lookup requestId = some lease

theorem lease_spared (held : HoldsLease requestId lease s) (spares : SparesLeaseOf requestId s action)
    (step : catalogStep codec s action = some next) : HoldsLease requestId lease next := by
  unfold HoldsLease at held ⊢
  rcases catalogStep_sessions step with same | ⟨own,rfl,same⟩ | ⟨index,reading,room,request,rfl,present,same⟩
  · rw [same]
    exact held
  · rw [same,sessionsStep_spares spares]
    exact held
  · rw [same,sessionsStep_spares (spares request present)]
    exact held

theorem lease_kept (held : HoldsLease requestId lease s)
    (along : (catalogMachine codec).Along (SparesLeaseOf requestId) s actions)
    (ran : (catalogMachine codec).run s actions = some last) : HoldsLease requestId lease last :=
  preserves_along (fun _ _ _ held spares step => lease_spared held spares step) held along ran

def Accepted (s : Sessions) (ack : DeviceExitAck) : Prop :=
  (s.deviceExitAck ack).tombstones.entries =
    s.tombstones.entries.filter (fun event => !ack.eventIds.contains event.eventId) ∧
  (s.deviceExitAck ack).catalogLeases.lookup ack.requestId = none

theorem leased_accepted {ack : DeviceExitAck} (listed : ack.eventIds ≠ []) (bound : ack.snapshotOwnerId ≠ "") (held : Leased s ack) :
    Accepted s ack := by
  unfold Accepted
  rw [deviceExitAck_leased listed bound held]
  obtain ⟨store,leases,_⟩ := acknowledged_parts
  refine ⟨?_,?_⟩
  · rw [store,TombstoneStore.acknowledge_entries]
    rfl
  · rw [leases]
    simp [Sessions.withoutLease]

def SendsComplete (s next : CatalogSystem) (catalog : DeviceSessionCatalog) : Prop :=
  catalog.complete = true ∧
    ∃ channelId, next.sessions.outbound = s.sessions.outbound ++ [(channelId,.sessionCatalog catalog)]

theorem completion_granted (step : catalogStep codec s action = some next) (sends : SendsComplete s next catalog) :
    HoldsLease catalog.requestId ⟨catalog.snapshotOwnerId,catalog.snapshotEpoch⟩ next := by
  obtain ⟨complete,_,sent⟩ := sends
  cases catalogStep_move step with
  | sessiond action => exact completion_leased sent complete
  | _ => simp at sent

theorem completion_owner (valid : AckInvariant next) (sends : SendsComplete s next catalog) :
    catalog.snapshotOwnerId ≠ "" := by
  obtain ⟨_,channelId,sent⟩ := sends
  have mem : (channelId,.sessionCatalog catalog) ∈ next.sessions.outbound := by simp [sent]
  exact valid.sessions.owners _ _ mem ▸ next.sessions.owned

-- An exit, the server's query for it, and its commit, with nothing else going on.
def plainCodec : DeviceCodec := ⟨fun _ _ => 0,fun _ => 0,fun _ => 0⟩

def quietReading (_ : String) : SessionReading := ⟨80,24,0⟩

def shellExited : List CatalogAction := [.runtime .connected,.sessiond (.recoveredExit "shell" "task" ⟨0,0,0⟩)]

def shellServed : List CatalogAction :=
  shellExited ++ [.runtime (.requestServer "query" 0 true),.deliverRequest 0 quietReading true,.deliverAnswer 0 0 true] ++
    List.replicate 7 (.runtime (.commit 0 [] true 0 true))

end Coflux.Runtime
