import Coflux.Sessiond.Catalog

namespace Coflux.Sessiond
open FiniteMap StepMachine


structure Snapshot where
  owner : String
  epoch : Nat
  sessions : List (String × SessionHandle)
  exits : List DeviceSessionExitTombstone

def Sessions.snapshot (s : Sessions) : Snapshot where
  owner := s.snapshotOwnerId
  epoch := s.snapshotEpoch
  sessions := (entries s.map).insertionSort fun a b => a.1 ≤ b.1
  exits := s.tombstones.entries

-- Size and output position are read when the page is made.
open Sessions (emptyPage legacyCatalog)

structure SessionIdentity where
  (sessionId taskId : String)
  pid : Int
  cwd : String
  startedAt : Nat

def DeviceSessionInfo.identity (info : DeviceSessionInfo) : SessionIdentity :=
  ⟨info.sessionId,info.taskId,info.pid,info.cwd,info.startedAt⟩

def Snapshot.identities (snapshot : Snapshot) : List SessionIdentity :=
  snapshot.sessions.map fun (sessionId,session) =>
    ⟨sessionId,session.taskId,session.pid,session.cwd,session.startedAt⟩

theorem catalogSessions_identities (s : Sessions) :
    (s.catalogSessions reading).map DeviceSessionInfo.identity = s.snapshot.identities := by
  simp [Sessions.catalogSessions,Snapshot.identities,Sessions.snapshot,DeviceSessionInfo.identity,Function.comp_def]

-- The page of a caller that does not page starts at the front, whatever offsets it echoes.
structure CutFrom (snapshot : Snapshot) (catalog : DeviceSessionCatalog) : Prop where
  owner : catalog.snapshotOwnerId = snapshot.owner
  epoch : catalog.snapshotEpoch = snapshot.epoch
  sessions : catalog.sessionOffset + catalog.sessions.length = catalog.nextSessionOffset →
    catalog.sessions.map DeviceSessionInfo.identity <+: snapshot.identities.drop catalog.sessionOffset
  exits : catalog.exitOffset + catalog.exits.length = catalog.nextExitOffset →
    catalog.exits <+: snapshot.exits.drop catalog.exitOffset
  complete : catalog.complete = true →
    catalog.nextSessionOffset = snapshot.identities.length ∧ catalog.nextExitOffset = snapshot.exits.length

theorem Page.fill_takes (filled : Page.fill fits add tooLarge rest page = .ok result) :
    ∃ taken, taken <+: rest ∧ result = taken.foldl add page := by
  fun_induction Page.fill fits add tooLarge rest page with
  | case1 page => cases filled; exact ⟨[],List.nil_prefix,rfl⟩
  | case2 entry rest page room roomy ih =>
    obtain ⟨taken,part,same⟩ := ih filled
    exact ⟨entry :: taken,List.cons_prefix_cons.mpr ⟨rfl,part⟩,same⟩
  | case3 entry rest page room large first => cases filled
  | case4 entry rest page room large more => cases filled; exact ⟨[],List.nil_prefix,rfl⟩
  | case5 entry rest page full => cases filled; exact ⟨[],List.nil_prefix,rfl⟩

theorem Page.withSessions_response {taken : List DeviceSessionInfo} :
    (taken.foldl Page.withSession page).response = {page.response with
      sessions := page.response.sessions ++ taken
      nextSessionOffset := page.response.nextSessionOffset + taken.length} := by
  induction taken generalizing page with
  | nil => simp
  | cons entry rest ih =>
    rw [List.foldl_cons,ih]
    simp [Page.withSession]
    omega

theorem Page.withExits_response {taken : List DeviceSessionExitTombstone} :
    (taken.foldl Page.withExit page).response = {page.response with
      exits := page.response.exits ++ taken
      nextExitOffset := page.response.nextExitOffset + taken.length} := by
  induction taken generalizing page with
  | nil => simp
  | cons entry rest ih =>
    rw [List.foldl_cons,ih]
    simp [Page.withExit]
    omega

theorem pagedCatalog_parts {s : Sessions} (built : s.pagedCatalog fits request sessions exits = .ok response) :
    ∃ live dead, live <+: sessions.drop request.sessionOffset ∧ dead <+: exits.drop request.exitOffset ∧
      response = {s.emptyPage request with
        sessions := live
        exits := dead
        nextSessionOffset := request.sessionOffset + live.length
        nextExitOffset := request.exitOffset + dead.length
        complete := request.sessionOffset + live.length = sessions.length ∧
          request.exitOffset + dead.length = exits.length} := by
  simp only [Sessions.pagedCatalog,bind,Except.bind] at built
  split at built
  · cases built
  · rename_i filled
    obtain ⟨live,part,rfl⟩ := Page.fill_takes filled
    simp only [Page.withSessions_response] at built
    split at built
    · split at built
      · cases built
      · rename_i finished
        obtain ⟨dead,rest,rfl⟩ := Page.fill_takes finished
        cases built
        refine ⟨live,dead,part,rest,?_⟩
        simp [Page.withExits_response,Page.withSessions_response,emptyPage]
    · cases built
      refine ⟨live,[],part,List.nil_prefix,?_⟩
      simp only [emptyPage,List.length_nil,Nat.add_zero,List.nil_append]
      rfl

theorem paged_cut {s : Sessions}
    (built : s.pagedCatalog fits request (s.catalogSessions reading) s.tombstones.entries = .ok response) :
    CutFrom s.snapshot response := by
  obtain ⟨_,_,part,rest,rfl⟩ := pagedCatalog_parts built
  have size : s.snapshot.identities.length = (s.catalogSessions reading).length := by
    rw [← catalogSessions_identities s,List.length_map]
  refine ⟨rfl,rfl,?_,fun _ => rest,?_⟩
  · intro _
    rw [← catalogSessions_identities s,← List.map_drop]
    exact part.map _
  · intro ends
    simp only [decide_eq_true_eq] at ends
    exact ⟨ends.1.trans size.symm,ends.2⟩

theorem legacy_cut {s : Sessions} :
    CutFrom s.snapshot (s.legacyCatalog request (s.catalogSessions reading) s.tombstones.entries) := by
  have size : s.snapshot.identities.length = (s.catalogSessions reading).length := by
    rw [← catalogSessions_identities s,List.length_map]
  refine ⟨rfl,rfl,?_,?_,fun _ => ⟨size.symm,rfl⟩⟩
  · intro consistent
    -- All entries are in it, so its echoed offset can only be the front.
    have front : request.sessionOffset = 0 := by
      simp only [legacyCatalog,emptyPage] at consistent
      omega
    simp only [legacyCatalog,emptyPage,front,List.drop_zero,catalogSessions_identities]
    exact List.prefix_rfl
  · intro consistent
    have front : request.exitOffset = 0 := by
      simp only [legacyCatalog,emptyPage] at consistent
      omega
    simp only [legacyCatalog,emptyPage,front,List.drop_zero]
    exact List.prefix_rfl

theorem reset_cut {s : Sessions} : CutFrom s.snapshot (s.resetPage request) :=
  ⟨rfl,rfl,fun _ => List.nil_prefix,fun _ => List.nil_prefix,(by intro ends; cases ends)⟩

section Posting
variable {s : Sessions} {codec : DeviceCodec}

theorem sendDevice_outbound
    (sent : (channel,.sessionCatalog catalog) ∈ (s.sendDevice codec room channelId payload).2.outbound) :
    (channel,.sessionCatalog catalog) ∈ s.outbound ∨ payload = .sessionCatalog catalog := by
  rcases sendDevice_cases with lost | posted
  · rw [lost] at sent
    exact .inl sent
  · rw [posted] at sent
    rcases List.mem_append.mp sent with earlier | new
    · exact .inl earlier
    · exact .inr (Prod.mk.inj (List.mem_singleton.mp new)).2.symm

theorem sendCatalog_outbound
    (sent : (channel,.sessionCatalog catalog) ∈ (s.sendCatalog codec room channelId requestId response).outbound) :
    (channel,.sessionCatalog catalog) ∈ s.outbound ∨ response = catalog := by
  have posted : (channel,.sessionCatalog catalog) ∈
      (s.sendDevice codec room channelId (.sessionCatalog response)).2.outbound := by
    unfold Sessions.sendCatalog at sent
    simp only at sent
    split at sent
    · exact sent
    · exact sent
  rcases sendDevice_outbound posted with earlier | new
  · exact .inl earlier
  · exact .inr (DevicePayload.sessionCatalog.inj new)

theorem deviceCatalog_cut {reading : String → SessionReading}
    (sent : (channel,.sessionCatalog catalog) ∈ (s.deviceCatalog codec reading room channelId request).outbound) :
    (channel,.sessionCatalog catalog) ∈ s.outbound ∨ CutFrom s.snapshot catalog := by
  unfold Sessions.deviceCatalog at sent
  simp only at sent
  split at sent
  · rcases sendDevice_outbound sent with earlier | new
    · exact .inl earlier
    · exact .inr (DevicePayload.sessionCatalog.inj new ▸ reset_cut)
  · split at sent
    · rcases sendCatalog_outbound sent with earlier | new
      · exact .inl earlier
      · exact .inr (new ▸ legacy_cut)
    · split at sent
      · unfold Sessions.sendDeviceError at sent
        rcases sendDevice_outbound sent with earlier | new
        · exact .inl earlier
        · cases new
      · rename_i built
        rcases sendCatalog_outbound sent with earlier | new
        · exact .inl earlier
        · exact .inr (new ▸ paged_cut built)

theorem acknowledged_snapshot : (s.acknowledged eventIds).snapshot = s.snapshot ∨
    ((s.acknowledged eventIds).snapshotOwnerId = s.snapshotOwnerId ∧
      (s.acknowledged eventIds).snapshotEpoch = min (s.snapshotEpoch + 1) u64Max) := by
  simp only [Sessions.acknowledged]
  split
  · exact .inr ⟨rfl,rfl⟩
  · rename_i unchanged
    have all : (s.tombstones.acknowledge eventIds).2.entries = s.tombstones.entries := by
      rw [TombstoneStore.acknowledge_entries]
      simp only [TombstoneStore.acknowledge] at unchanged
      split at unchanged
      · simp at unchanged
      · rename_i same
        exact List.filter_sublist.eq_of_length (not_not.mp same)
    exact .inl (congrArg (Snapshot.mk _ _ _) all)

def SameOrNext (s next : Sessions) : Prop :=
  next.snapshot = s.snapshot ∨
    (next.snapshotOwnerId = s.snapshotOwnerId ∧ next.snapshotEpoch = min (s.snapshotEpoch + 1) u64Max)

theorem answered_snapshot (answered : Answered s channelId request next) : next.snapshot = s.snapshot := by
  cases answered <;> rfl

theorem acked_snapshot {ack : DeviceExitAck} (acked : Acked s ack next) : SameOrNext s next := by
  cases acked with
  | refused => exact .inl rfl
  | unbound form => exact acknowledged_snapshot
  | leased held =>
    have step : SameOrNext (s.withoutLease ack.requestId)
        ((s.withoutLease ack.requestId).acknowledged ack.eventIds) := acknowledged_snapshot
    exact step

theorem sessionsStep_snapshot : SameOrNext s (sessionsStep codec s action) := by
  cases action with
  | started sessionId session =>
    simp only [sessionsStep,Sessions.started]
    split
    · exact .inl rfl
    · exact .inr ⟨rfl,rfl⟩
  | recovered sessionId session =>
    simp only [sessionsStep,Sessions.recovered]
    split
    · exact .inl rfl
    · exact .inr ⟨rfl,rfl⟩
  | exited sessionId session exit =>
    simp only [sessionsStep,Sessions.exited]
    split
    · exact .inr ⟨rfl,rfl⟩
    · exact .inl rfl
  | recoveredExit sessionId taskId exit => exact .inr ⟨rfl,rfl⟩
  | catalog reading room channelId request =>
    exact .inl (answered_snapshot deviceCatalog_answered)
  | exitAck ack => exact acked_snapshot deviceExitAck_acked

theorem sessionsStep_cut (sent : (channel,.sessionCatalog catalog) ∈ (sessionsStep codec s action).outbound) :
    (channel,.sessionCatalog catalog) ∈ s.outbound ∨ CutFrom s.snapshot catalog := by
  cases action with
  | catalog reading room channelId request => exact deviceCatalog_cut sent
  | exitAck ack => exact .inl (acked_outbound deviceExitAck_acked ▸ sent)
  | started sessionId session =>
    simp only [sessionsStep,Sessions.started] at sent
    split at sent <;> exact .inl sent
  | recovered sessionId session =>
    simp only [sessionsStep,Sessions.recovered] at sent
    split at sent <;> exact .inl sent
  | exited sessionId session exit =>
    simp only [sessionsStep,Sessions.exited] at sent
    split at sent <;> exact .inl sent
  | recoveredExit sessionId taskId exit => exact .inl sent

end Posting

-- Below the last number a u64 holds there is one snapshot for each epoch.
structure Chronicle (seen : Snapshot → Prop) (s : Sessions) : Prop where
  current : seen s.snapshot
  bounded : s.snapshotEpoch ≤ u64Max
  owner : ∀ snapshot, seen snapshot → snapshot.owner = s.snapshotOwnerId
  earlier : ∀ snapshot, seen snapshot → snapshot.epoch ≤ s.snapshotEpoch
  unique : ∀ one two, seen one → seen two → one.epoch = two.epoch → one.epoch < u64Max → one = two

theorem chronicle_new : Chronicle (· = (Sessions.new processId owner owned).snapshot) (.new processId owner owned) := by
  refine ⟨rfl,(by simp only [Sessions.new]; decide),?_,?_,?_⟩
  · rintro snapshot rfl
    rfl
  · rintro snapshot rfl
    exact Nat.le_refl _
  · rintro one two rfl rfl _ _
    rfl

theorem chronicle_step (valid : Chronicle seen s) (step : SameOrNext s next) :
    Chronicle (fun snapshot => seen snapshot ∨ snapshot = next.snapshot) next := by
  rcases step with same | ⟨owner,epoch⟩
  · have owner : next.snapshotOwnerId = s.snapshotOwnerId := congrArg Snapshot.owner same
    have epoch : next.snapshotEpoch = s.snapshotEpoch := congrArg Snapshot.epoch same
    have old : ∀ snapshot, seen snapshot ∨ snapshot = next.snapshot → seen snapshot := by
      rintro snapshot (known | rfl)
      · exact known
      · exact same ▸ valid.current
    refine ⟨.inr rfl,epoch ▸ valid.bounded,?_,?_,?_⟩
    · exact fun snapshot known => (valid.owner _ (old snapshot known)).trans owner.symm
    · exact fun snapshot known => epoch ▸ valid.earlier _ (old snapshot known)
    · exact fun one two first second => valid.unique _ _ (old one first) (old two second)
  · have later : ∀ snapshot, seen snapshot → snapshot.epoch < u64Max → snapshot.epoch < next.snapshotEpoch := by
      intro snapshot known below
      have bound := valid.earlier _ known
      omega
    refine ⟨.inr rfl,epoch ▸ Nat.min_le_right _ _,?_,?_,?_⟩
    · rintro snapshot (known | rfl)
      · exact (valid.owner _ known).trans owner.symm
      · rfl
    · rintro snapshot (known | rfl)
      · have bound := valid.earlier _ known
        have range := valid.bounded
        omega
      · exact Nat.le_refl _
    · rintro one two (first | rfl) (second | rfl) same below
      · exact valid.unique _ _ first second same below
      · have order := later _ first below
        exact absurd same (Nat.ne_of_lt order)
      · have order := later _ second (same ▸ below)
        exact absurd same (Nat.ne_of_gt order)
      · rfl

end Coflux.Sessiond
