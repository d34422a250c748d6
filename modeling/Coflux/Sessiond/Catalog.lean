import Coflux.Foundation.Machine
import Coflux.Sessiond.SessionState

namespace Coflux.Sessiond
open FiniteMap StepMachine

def exitTombstoneLimit : Nat := 4096
def exitTombstoneBytes : Nat := 4 * 1024 * 1024
def catalogPageMinBytes : Nat := 64 * 1024
def catalogPageMaxBytes : Nat := 1024 * 1024
def catalogPageMaxEntries : Nat := 128
def catalogLeaseLimit : Nat := 1024
def maxLiveSessions : Nat := 128
def maxDeviceFrameBytes : Nat := 30 * 1024 * 1024
def maxFrameIdBytes : Nat := 255

-- The two clocks are only copied; they are kept as whole milliseconds.
structure DeviceSessionInfo where
  (sessionId taskId : String)
  pid : Int
  cwd : String
  (cols rows outputSeq startedAt : Nat)

structure DeviceSessionExitTombstone where
  (eventId sessionId taskId : String)
  exitCode : Int
  (finalOutputSeq exitedAt : Nat)
deriving DecidableEq

structure DeviceSessionCatalogRequest where
  (requestId snapshotOwnerId : String)
  (snapshotEpoch sessionOffset exitOffset maxPageBytes : Nat)

structure DeviceSessionCatalog where
  requestId : String
  sessions : List DeviceSessionInfo
  exits : List DeviceSessionExitTombstone
  snapshotOwnerId : String
  (snapshotEpoch sessionOffset exitOffset nextSessionOffset nextExitOffset : Nat)
  (complete reset : Bool)

structure DeviceExitAck where
  eventIds : List String
  (requestId snapshotOwnerId : String)
  snapshotEpoch : Nat

inductive DevicePayload where
  | sessionCatalog (catalog : DeviceSessionCatalog)
  | error (requestId : Option String) (code message : String)

-- The protobuf encoding, by the sizes the code asks for.
structure DeviceCodec where
  envelopeLen : String → DevicePayload → Nat
  sessionLen : DeviceSessionInfo → Nat
  exitLen : DeviceSessionExitTombstone → Nat

structure TombstoneStore where
  entries : List DeviceSessionExitTombstone
  bytes : Nat

namespace TombstoneStore

def empty : TombstoneStore := ⟨[],0⟩

def weight (event : DeviceSessionExitTombstone) : Nat :=
  event.eventId.utf8ByteSize + event.sessionId.utf8ByteSize + event.taskId.utf8ByteSize + 64

def Crowded (incoming count bytes : Nat) : Prop :=
  count ≥ exitTombstoneLimit ∨ incoming > exitTombstoneBytes - bytes

instance (incoming count bytes : Nat) : Decidable (Crowded incoming count bytes) := inferInstanceAs (Decidable (_ ∨ _))

def evict (incoming : Nat) : List DeviceSessionExitTombstone → Nat → TombstoneStore
  | [],bytes => ⟨[],bytes⟩
  | oldest :: rest,bytes =>
    if Crowded incoming (oldest :: rest).length bytes then evict incoming rest (bytes - weight oldest)
    else ⟨oldest :: rest,bytes⟩

def push (store : TombstoneStore) (event : DeviceSessionExitTombstone) : TombstoneStore :=
  let kept := evict (weight event) store.entries store.bytes
  if weight event ≤ exitTombstoneBytes then ⟨kept.entries ++ [event],kept.bytes + weight event⟩ else kept

def acknowledge (store : TombstoneStore) (eventIds : List String) : Bool × TombstoneStore :=
  let retained := store.entries.filter fun event => !eventIds.contains event.eventId
  if retained.length ≠ store.entries.length then (true,⟨retained,(retained.map weight).sum⟩)
  else (false,{store with entries := retained})

end TombstoneStore

structure CatalogLease where
  snapshotOwnerId : String
  snapshotEpoch : Nat
deriving DecidableEq

structure SessionHandle where
  arc : Nat
  taskId : String
  pid : Int
  cwd : String
  startedAt : Nat

-- Read under the session's own lock, after the map has been released.
structure SessionReading where
  (cols rows outputSeq : Nat)

-- The owner id is never empty. outbound records everything the connection's queue has accepted.
structure Sessions where
  map : Table String SessionHandle
  tombstones : TombstoneStore
  (nextEventId processId : Nat)
  snapshotOwnerId : String
  owned : snapshotOwnerId ≠ ""
  snapshotEpoch : Nat
  catalogLeases : Table String CatalogLease
  outbound : List (String × DevicePayload)

namespace Sessions

def new (processId : Nat) (owner : String) (owned : owner ≠ "") : Sessions where
  map := ∅
  tombstones := .empty
  nextEventId := 0
  processId := processId
  snapshotOwnerId := owner
  owned := owned
  snapshotEpoch := 1
  catalogLeases := ∅
  outbound := []

section
variable (s : Sessions)

def bumpSnapshotEpoch : Sessions :=
  {s with snapshotEpoch := min (s.snapshotEpoch + 1) u64Max}

section
variable (sessionId : String) (session : SessionHandle)

def started : Sessions :=
  if size s.map ≥ maxLiveSessions ∨ sessionId ∈ s.map then s
  else bumpSnapshotEpoch {s with map := s.map.insert sessionId session}

def recovered : Sessions :=
  if sessionId ∈ s.map then s
  else bumpSnapshotEpoch {s with map := s.map.insert sessionId session}

end

structure Exit where
  exitCode : Int
  (finalOutputSeq exitedAt : Nat)

def tombstone (sessionId taskId : String) (exit : Exit) : DeviceSessionExitTombstone where
  eventId := s!"exit-{s.processId}-{s.nextEventId + 1}"
  sessionId := sessionId
  taskId := taskId
  exitCode := exit.exitCode
  finalOutputSeq := exit.finalOutputSeq
  exitedAt := exit.exitedAt

def entomb (event : DeviceSessionExitTombstone) : Sessions :=
  bumpSnapshotEpoch {s with tombstones := s.tombstones.push event}

-- A number is drawn in any case; there is a tombstone if the map still holds this very session.
def exited (sessionId : String) (session : SessionHandle) (exit : Exit) : Sessions :=
  let event := s.tombstone sessionId session.taskId exit
  let counted := {s with nextEventId := s.nextEventId + 1}
  if (s.map.lookup sessionId).any (·.arc = session.arc) then
    {counted with map := s.map.erase sessionId}.entomb event
  else counted

def recoveredExit (sessionId taskId : String) (exit : Exit) : Sessions :=
  {s with nextEventId := s.nextEventId + 1}.entomb (s.tombstone sessionId taskId exit)

def posted (channelId : String) (payload : DevicePayload) : Sessions :=
  {s with outbound := s.outbound ++ [(channelId,payload)]}

end

section
variable (codec : DeviceCodec) (room : Bool) (channelId : String)

def sendDevice (payload : DevicePayload)
    (s : Sessions) : Bool × Sessions :=
  if codec.envelopeLen channelId payload > maxDeviceFrameBytes then (false,s)
  else if channelId.utf8ByteSize > maxFrameIdBytes then (false,s)
  else if room then (true,s.posted channelId payload)
  else (false,s)

def sendDeviceError (requestId : Option String)
    (code message : String) (s : Sessions) : Sessions :=
  (s.sendDevice codec room channelId (.error requestId code message)).2

end

section
variable (s : Sessions)

def catalogSessions (reading : String → SessionReading) : List DeviceSessionInfo :=
  let handles := (entries s.map).insertionSort fun a b => a.1 ≤ b.1
  handles.map fun (sessionId,session) =>
    let seen := reading sessionId
    ⟨sessionId,session.taskId,session.pid,session.cwd,seen.cols,seen.rows,seen.outputSeq,session.startedAt⟩

section
variable (request : DeviceSessionCatalogRequest)

def ownerMatches : Bool :=
  request.snapshotOwnerId = "" ∨ (request.snapshotOwnerId = s.snapshotOwnerId ∧ request.snapshotEpoch = s.snapshotEpoch)

def resetPage : DeviceSessionCatalog :=
  ⟨request.requestId,[],[],s.snapshotOwnerId,s.snapshotEpoch,request.sessionOffset,request.exitOffset,0,0,false,true⟩

def emptyPage : DeviceSessionCatalog :=
  ⟨request.requestId,[],[],s.snapshotOwnerId,s.snapshotEpoch,request.sessionOffset,request.exitOffset,
    request.sessionOffset,request.exitOffset,false,false⟩

end

end

end Sessions

structure Page where
  response : DeviceSessionCatalog
  entryCount : Nat

namespace Page

def withSession (page : Page) (entry : DeviceSessionInfo) : Page where
  response := {page.response with
    sessions := page.response.sessions ++ [entry]
    nextSessionOffset := page.response.nextSessionOffset + 1}
  entryCount := page.entryCount + 1

def withExit (page : Page) (entry : DeviceSessionExitTombstone) : Page where
  response := {page.response with
    exits := page.response.exits ++ [entry]
    nextExitOffset := page.response.nextExitOffset + 1}
  entryCount := page.entryCount + 1

-- Entries are added up to the limit while the encoded page fits; a single one that does not fit is
-- an error of its own.
def fill (fits : DeviceSessionCatalog → Bool) (add : Page → α → Page) (tooLarge : String) :
    List α → Page → Except String Page
  | [],page => .ok page
  | entry :: rest,page =>
    if page.entryCount < catalogPageMaxEntries then
      if fits (add page entry).response then fill fits add tooLarge rest (add page entry)
      else if page.entryCount = 0 then .error tooLarge
      else .ok page
    else .ok page

def fillSessions (fits : DeviceSessionCatalog → Bool) :=
  fill fits withSession "单条 session catalog 记录超过分页上限"

def fillExits (fits : DeviceSessionCatalog → Bool) :=
  fill fits withExit "单条 exit tombstone 超过分页上限"

end Page

namespace Sessions

def pagedCatalog (s : Sessions) (fits : DeviceSessionCatalog → Bool) (request : DeviceSessionCatalogRequest)
    (sessions : List DeviceSessionInfo) (exits : List DeviceSessionExitTombstone) :
    Except String DeviceSessionCatalog := do
  let page ← Page.fillSessions fits (sessions.drop request.sessionOffset) ⟨s.emptyPage request,0⟩
  let page ← if page.response.nextSessionOffset = sessions.length then
      Page.fillExits fits (exits.drop request.exitOffset) page
    else .ok page
  return {page.response with
    complete := page.response.nextSessionOffset = sessions.length ∧ page.response.nextExitOffset = exits.length}

def legacyCatalog (s : Sessions) (request : DeviceSessionCatalogRequest)
    (sessions : List DeviceSessionInfo) (exits : List DeviceSessionExitTombstone) : DeviceSessionCatalog :=
  {s.emptyPage request with
    sessions := sessions
    exits := exits
    nextSessionOffset := sessions.length
    nextExitOffset := exits.length
    complete := true}

-- BTreeMap keeps at most catalogLeaseLimit leases: the least id makes room.
def grantLease (s : Sessions) (requestId : String) : Sessions :=
  let leases := if requestId ∉ s.catalogLeases ∧ size s.catalogLeases ≥ catalogLeaseLimit then
      popFirst s.catalogLeases
    else s.catalogLeases
  {s with catalogLeases := leases.insert requestId ⟨s.snapshotOwnerId,s.snapshotEpoch⟩}

-- Only a complete catalog that was sent can be acknowledged later.
def sendCatalog (codec : DeviceCodec) (room : Bool) (channelId requestId : String)
    (response : DeviceSessionCatalog) (s : Sessions) : Sessions :=
  let (sent,next) := s.sendDevice codec room channelId (.sessionCatalog response)
  if sent && response.complete then next.grantLease requestId else next

def deviceCatalog (codec : DeviceCodec) (reading : String → SessionReading) (room : Bool)
    (channelId : String) (request : DeviceSessionCatalogRequest) (s : Sessions) : Sessions :=
  let sessions := s.catalogSessions reading
  let exits := s.tombstones.entries
  let legacy := request.maxPageBytes = 0
  let offsetsValid := request.sessionOffset ≤ sessions.length ∧ request.exitOffset ≤ exits.length
  if ¬legacy ∧ (¬s.ownerMatches request ∨ ¬offsetsValid) then
    (s.sendDevice codec room channelId (.sessionCatalog (s.resetPage request))).2
  else if legacy then s.sendCatalog codec room channelId request.requestId (s.legacyCatalog request sessions exits)
  else
    let pageBytes := max catalogPageMinBytes (min request.maxPageBytes catalogPageMaxBytes)
    let fits := fun catalog => decide (codec.envelopeLen channelId (.sessionCatalog catalog) ≤ pageBytes)
    match s.pagedCatalog fits request sessions exits with
    | .error message => s.sendDeviceError codec room channelId (some request.requestId) "catalog_entry_too_large" message
    | .ok response => s.sendCatalog codec room channelId request.requestId response

def acknowledged (s : Sessions) (eventIds : List String) : Sessions :=
  let (removed,store) := s.tombstones.acknowledge eventIds
  let next := {s with tombstones := store}
  if removed then next.bumpSnapshotEpoch else next

def withoutLease (s : Sessions) (requestId : String) : Sessions :=
  {s with catalogLeases := s.catalogLeases.erase requestId}

-- Without request id, owner and epoch it is the form of older callers; any other ack uses up a
-- lease.
def deviceExitAck (s : Sessions) (request : DeviceExitAck) : Sessions :=
  if request.eventIds = [] then s
  else if request.requestId ≠ "" ∨ request.snapshotOwnerId ≠ "" ∨ request.snapshotEpoch ≠ 0 then
    if s.catalogLeases.lookup request.requestId = some ⟨request.snapshotOwnerId,request.snapshotEpoch⟩ then
      (s.withoutLease request.requestId).acknowledged request.eventIds
    else s
  else s.acknowledged request.eventIds

end Sessions

inductive SessionsAction where
  | started (sessionId : String) (session : SessionHandle)
  | recovered (sessionId : String) (session : SessionHandle)
  | exited (sessionId : String) (session : SessionHandle) (exit : Sessions.Exit)
  | recoveredExit (sessionId taskId : String) (exit : Sessions.Exit)
  | catalog (reading : String → SessionReading) (room : Bool) (channelId : String)
      (request : DeviceSessionCatalogRequest)
  | exitAck (request : DeviceExitAck)

def sessionsStep (codec : DeviceCodec) (s : Sessions) : SessionsAction → Sessions
  | .started sessionId session => s.started sessionId session
  | .recovered sessionId session => s.recovered sessionId session
  | .exited sessionId session exit => s.exited sessionId session exit
  | .recoveredExit sessionId taskId exit => s.recoveredExit sessionId taskId exit
  | .catalog reading room channelId request => s.deviceCatalog codec reading room channelId request
  | .exitAck request => s.deviceExitAck request

namespace TombstoneStore

def Counted (store : TombstoneStore) : Prop := store.bytes = (store.entries.map weight).sum

variable {entries : List DeviceSessionExitTombstone} {bytes : Nat}

theorem evict_counted (counted : Counted ⟨entries,bytes⟩) : Counted (evict incoming entries bytes) := by
  induction entries generalizing bytes with
  | nil => exact counted
  | cons oldest rest ih =>
    unfold evict
    split
    · apply ih
      simp only [Counted,List.map_cons,List.sum_cons] at counted ⊢
      omega
    · exact counted

theorem push_counted (counted : Counted store) : Counted (store.push event) := by
  have kept : Counted (evict (weight event) store.entries store.bytes) := evict_counted counted
  simp only [push]
  split
  · simp only [Counted,List.map_append,List.sum_append,List.map_cons,List.map_nil,List.sum_cons,List.sum_nil] at kept ⊢
    omega
  · exact kept

theorem acknowledge_entries {store : TombstoneStore} :
    (store.acknowledge eventIds).2.entries = store.entries.filter fun event => !eventIds.contains event.eventId := by
  simp only [acknowledge]
  split <;> rfl

theorem acknowledge_counted (counted : Counted store) : Counted (store.acknowledge eventIds).2 := by
  simp only [acknowledge]
  split
  · rfl
  · rename_i same
    have all := List.filter_sublist.eq_of_length (not_not.mp same)
    simp only [Counted,all]
    exact counted

theorem evicted_crowded (counted : Counted ⟨entries,bytes⟩) (present : event ∈ entries)
    (gone : event ∉ (evict incoming entries bytes).entries) :
    ∃ before after, entries = before ++ event :: after ∧
      Crowded incoming (event :: after).length ((event :: after).map weight).sum := by
  induction entries generalizing bytes with
  | nil => cases present
  | cons oldest rest ih =>
    unfold evict at gone
    split at gone
    · rename_i crowded
      have total : bytes = ((oldest :: rest).map weight).sum := counted
      rcases List.mem_cons.mp present with rfl | older
      · exact ⟨[],rest,rfl,total ▸ crowded⟩
      · have rest_counted : Counted ⟨rest,bytes - weight oldest⟩ := by
          simp only [List.map_cons,List.sum_cons] at total
          simp only [Counted]
          omega
        obtain ⟨before,after,split,full⟩ := ih rest_counted older gone
        exact ⟨oldest :: before,after,by rw [split]; rfl,full⟩
    · exact absurd present gone

theorem pushed_out (counted : Counted store) (present : event ∈ store.entries) (gone : event ∉ (store.push incoming).entries) :
    ∃ before after, store.entries = before ++ event :: after ∧
      Crowded (weight incoming) (event :: after).length ((event :: after).map weight).sum := by
  apply evicted_crowded counted present
  intro kept
  apply gone
  simp only [push]
  split
  · exact List.mem_append_left _ kept
  · exact kept

end TombstoneStore

theorem Page.fill_keeps (inv : Page → Prop) (keeps : ∀ page entry, inv page → inv (add page entry)) (start : inv page)
    (filled : Page.fill fits add tooLarge rest page = .ok result) : inv result := by
  fun_induction Page.fill fits add tooLarge rest page with
  | case1 page => cases filled; exact start
  | case2 entry rest page room roomy ih => exact ih (keeps _ _ start) filled
  | case3 entry rest page room large first => cases filled
  | case4 entry rest page room large more => cases filled; exact start
  | case5 entry rest page full => cases filled; exact start

-- A catalog names the request it answers and the snapshot it was cut from.
structure Stamped (s : Sessions) (request : DeviceSessionCatalogRequest) (catalog : DeviceSessionCatalog) : Prop where
  requestId : catalog.requestId = request.requestId
  owner : catalog.snapshotOwnerId = s.snapshotOwnerId
  epoch : catalog.snapshotEpoch = s.snapshotEpoch

variable {s : Sessions} {ack : DeviceExitAck}

theorem fillSessions_stamped (stamped : Stamped s request page.response)
    (filled : Page.fillSessions fits rest page = .ok result) : Stamped s request result.response := by
  refine Page.fill_keeps (fun page => Stamped s request page.response) ?_ stamped filled
  exact fun _ _ good => {good with}

theorem fillExits_stamped (stamped : Stamped s request page.response)
    (filled : Page.fillExits fits rest page = .ok result) : Stamped s request result.response := by
  refine Page.fill_keeps (fun page => Stamped s request page.response) ?_ stamped filled
  exact fun _ _ good => {good with}

theorem pagedCatalog_stamped (built : s.pagedCatalog fits request sessions exits = .ok response) :
    Stamped s request response := by
  simp only [Sessions.pagedCatalog,bind,Except.bind] at built
  split at built
  · cases built
  · rename_i page filled
    have first : Stamped s request page.response := fillSessions_stamped ⟨rfl,rfl,rfl⟩ filled
    split at built
    · split at built
      · cases built
      · rename_i finished
        have last := fillExits_stamped first finished
        cases built
        exact {last with}
    · cases built
      exact {first with}

inductive Answered (s : Sessions) (channelId : String) (request : DeviceSessionCatalogRequest) : Sessions → Prop where
  | silent : Answered s channelId request s
  | refused (message : String) :
      Answered s channelId request (s.posted channelId (.error (some request.requestId) "catalog_entry_too_large" message))
  | unfinished (catalog : DeviceSessionCatalog) (stamped : Stamped s request catalog) (more : catalog.complete = false) :
      Answered s channelId request (s.posted channelId (.sessionCatalog catalog))
  | finished (catalog : DeviceSessionCatalog) (stamped : Stamped s request catalog) (complete : catalog.complete = true) :
      Answered s channelId request ((s.posted channelId (.sessionCatalog catalog)).grantLease request.requestId)

theorem sendDevice_cases :
    s.sendDevice codec room channelId payload = (false,s) ∨
    s.sendDevice codec room channelId payload = (true,s.posted channelId payload) := by
  unfold Sessions.sendDevice
  split
  · exact .inl rfl
  · split
    · exact .inl rfl
    · split
      · exact .inr rfl
      · exact .inl rfl

theorem sendCatalog_answered (stamped : Stamped s request response) :
    Answered s channelId request (s.sendCatalog codec room channelId request.requestId response) := by
  unfold Sessions.sendCatalog
  rcases sendDevice_cases with lost | sent
  · rw [lost]
    exact .silent
  · rw [sent]
    cases ends : response.complete with
    | false => exact .unfinished response stamped ends
    | true => exact .finished response stamped ends

theorem deviceCatalog_answered
    :
    Answered s channelId request (s.deviceCatalog codec reading room channelId request) := by
  unfold Sessions.deviceCatalog
  simp only
  split
  · rcases sendDevice_cases with lost | sent
    · rw [lost]
      exact .silent
    · rw [sent]
      exact .unfinished _ ⟨rfl,rfl,rfl⟩ rfl
  · split
    · exact sendCatalog_answered ⟨rfl,rfl,rfl⟩
    · split
      · rename_i message _
        unfold Sessions.sendDeviceError
        rcases sendDevice_cases with lost | sent
        · rw [lost]
          exact .silent
        · rw [sent]
          exact .refused message
      · rename_i built
        exact sendCatalog_answered (pagedCatalog_stamped built)

theorem acknowledged_parts :
    (s.acknowledged eventIds).tombstones = (s.tombstones.acknowledge eventIds).2 ∧
    (s.acknowledged eventIds).catalogLeases = s.catalogLeases ∧
    (s.acknowledged eventIds).outbound = s.outbound ∧
    (s.acknowledged eventIds).snapshotOwnerId = s.snapshotOwnerId := by
  simp only [Sessions.acknowledged]
  split <;> exact ⟨rfl,rfl,rfl,rfl⟩

def DeviceExitAck.Unbound (ack : DeviceExitAck) : Prop :=
  ack.requestId = "" ∧ ack.snapshotOwnerId = "" ∧ ack.snapshotEpoch = 0

def Leased (s : Sessions) (ack : DeviceExitAck) : Prop :=
  s.catalogLeases.lookup ack.requestId = some ⟨ack.snapshotOwnerId,ack.snapshotEpoch⟩

inductive Acked (s : Sessions) (ack : DeviceExitAck) : Sessions → Prop where
  | refused : Acked s ack s
  | unbound (form : ack.Unbound) : Acked s ack (s.acknowledged ack.eventIds)
  | leased (held : Leased s ack) : Acked s ack ((s.withoutLease ack.requestId).acknowledged ack.eventIds)

theorem deviceExitAck_acked : Acked s ack (s.deviceExitAck ack) := by
  unfold Sessions.deviceExitAck
  split
  · exact .refused
  · split
    · split
      · rename_i held
        exact .leased held
      · exact .refused
    · rename_i form
      simp only [not_or,not_not] at form
      exact .unbound form

theorem deviceExitAck_leased (listed : ack.eventIds ≠ []) (bound : ack.snapshotOwnerId ≠ "") (held : Leased s ack) :
    s.deviceExitAck ack = (s.withoutLease ack.requestId).acknowledged ack.eventIds := by
  unfold Leased at held
  unfold Sessions.deviceExitAck
  rw [if_neg listed,if_pos (.inr (.inl bound)),if_pos held]

def CompletedUnder (s : Sessions) (requestId owner : String) (epoch : Nat) : Prop :=
  ∃ channelId catalog, (channelId,.sessionCatalog catalog) ∈ s.outbound ∧ catalog.complete = true ∧
    catalog.requestId = requestId ∧ catalog.snapshotOwnerId = owner ∧ catalog.snapshotEpoch = epoch

structure SessionsInvariant (s : Sessions) : Prop where
  counted : s.tombstones.Counted
  backed : ∀ requestId lease, s.catalogLeases.lookup requestId = some lease →
    CompletedUnder s requestId lease.snapshotOwnerId lease.snapshotEpoch
  owners : ∀ channelId catalog, (channelId,DevicePayload.sessionCatalog catalog) ∈ s.outbound →
    catalog.snapshotOwnerId = s.snapshotOwnerId

theorem sessions_new_invariant : SessionsInvariant (.new processId owner owned) :=
  ⟨rfl,(by intro requestId lease found; cases found),(by intro channelId catalog sent; cases sent)⟩

theorem completed_mono (more : ∀ entry, entry ∈ s.outbound → entry ∈ next.outbound)
    (completed : CompletedUnder s requestId owner epoch) : CompletedUnder next requestId owner epoch := by
  obtain ⟨channelId,catalog,sent,parts⟩ := completed
  exact ⟨channelId,catalog,more _ sent,parts⟩

theorem posted_more : ∀ entry, entry ∈ s.outbound → entry ∈ (s.posted channelId payload).outbound :=
  fun _ sent => List.mem_append_left _ sent

section
variable (valid : SessionsInvariant s)
include valid

-- Only the catalogs it appends and the tombstones have to be looked at.
theorem invariant_of_same (counted : next.tombstones.Counted) (leases : next.catalogLeases = s.catalogLeases)
    (outbound : next.outbound = s.outbound) (owner : next.snapshotOwnerId = s.snapshotOwnerId) : SessionsInvariant next := by
  refine ⟨counted,?_,?_⟩
  · intro requestId lease found
    rw [leases] at found
    exact completed_mono (fun _ sent => outbound ▸ sent) (valid.backed _ _ found)
  · intro channelId catalog sent
    rw [outbound] at sent
    rw [owner]
    exact valid.owners _ _ sent

theorem withoutLease_invariant : SessionsInvariant (s.withoutLease requestId) := by
  exact ⟨valid.counted,Each.erase valid.backed,valid.owners⟩

theorem acknowledged_invariant : SessionsInvariant (s.acknowledged eventIds) := by
  obtain ⟨store,leases,outbound,owner⟩ := acknowledged_parts
  exact invariant_of_same valid (store ▸ TombstoneStore.acknowledge_counted valid.counted) leases outbound owner

theorem posted_invariant (owned : ∀ catalog, payload = .sessionCatalog catalog → catalog.snapshotOwnerId = s.snapshotOwnerId) :
    SessionsInvariant (s.posted channelId payload) := by
  refine ⟨valid.counted,?_,?_⟩
  · intro requestId lease found
    exact completed_mono posted_more (valid.backed _ _ found)
  · intro channel catalog sent
    rcases List.mem_append.mp sent with old | new
    · exact valid.owners _ _ old
    · simp only [List.mem_singleton,Prod.mk.injEq] at new
      exact owned _ new.2.symm

end

theorem grantLease_lookup (found : (s.grantLease requestId).catalogLeases.lookup other = some lease) :
    (other = requestId ∧ lease = ⟨s.snapshotOwnerId,s.snapshotEpoch⟩) ∨ s.catalogLeases.lookup other = some lease := by
  rcases insert_lookup found with here | ⟨_,before⟩
  · exact .inl here
  · split at before
    · exact .inr (popFirst_kept before)
    · exact .inr before

theorem grantLease_invariant (valid : SessionsInvariant s)
    (completed : CompletedUnder s requestId s.snapshotOwnerId s.snapshotEpoch) :
    SessionsInvariant (s.grantLease requestId) := by
  refine ⟨valid.counted,?_,valid.owners⟩
  intro other lease found
  rcases grantLease_lookup found with ⟨rfl,rfl⟩ | old
  · exact completed
  · exact valid.backed _ _ old

theorem answered_invariant (valid : SessionsInvariant s) (answered : Answered s channelId request next) :
    SessionsInvariant next := by
  cases answered with
  | silent => exact valid
  | refused message => exact posted_invariant valid (by intro catalog same; cases same)
  | unfinished catalog stamped more =>
    refine posted_invariant valid ?_
    rintro catalog ⟨⟩
    exact stamped.owner
  | finished catalog stamped complete =>
    apply grantLease_invariant
    · refine posted_invariant valid ?_
      rintro catalog ⟨⟩
      exact stamped.owner
    · exact ⟨channelId,catalog,List.mem_append_right _ (List.mem_singleton.mpr rfl),complete,
        stamped.requestId,stamped.owner,stamped.epoch⟩

theorem acked_invariant (valid : SessionsInvariant s) (acked : Acked s ack next) : SessionsInvariant next := by
  cases acked with
  | refused => exact valid
  | unbound form => exact acknowledged_invariant valid
  | leased held => exact acknowledged_invariant (withoutLease_invariant valid)

inductive SessionsMove (s : Sessions) : SessionsAction → Sessions → Prop where
  | lived {later : Sessions} (tombstones : later.tombstones = s.tombstones)
      (leases : later.catalogLeases = s.catalogLeases) (outbound : later.outbound = s.outbound)
      (owner : later.snapshotOwnerId = s.snapshotOwnerId) : SessionsMove s action later
  | buried {later : Sessions} (event : DeviceSessionExitTombstone)
      (tombstones : later.tombstones = s.tombstones.push event)
      (leases : later.catalogLeases = s.catalogLeases) (outbound : later.outbound = s.outbound)
      (owner : later.snapshotOwnerId = s.snapshotOwnerId) : SessionsMove s action later
  | answered {later : Sessions} {asked : DeviceSessionCatalogRequest} (answer : Answered s channelId asked later) :
      SessionsMove s (.catalog reading room channelId asked) later
  | acked {ack : DeviceExitAck} {later : Sessions} (answer : Acked s ack later) : SessionsMove s (.exitAck ack) later

theorem sessionsStep_move (s : Sessions) : SessionsMove s action (sessionsStep codec s action) := by
  cases action with
  | started sessionId session =>
    simp only [sessionsStep,Sessions.started]
    split <;> exact .lived rfl rfl rfl rfl
  | recovered sessionId session =>
    simp only [sessionsStep,Sessions.recovered]
    split <;> exact .lived rfl rfl rfl rfl
  | exited sessionId session exit =>
    simp only [sessionsStep,Sessions.exited]
    split
    · exact .buried _ rfl rfl rfl rfl
    · exact .lived rfl rfl rfl rfl
  | recoveredExit sessionId taskId exit => exact .buried _ rfl rfl rfl rfl
  | catalog reading room channelId request => exact .answered deviceCatalog_answered
  | exitAck ack => exact .acked deviceExitAck_acked

theorem sessionsStep_invariant (valid : SessionsInvariant s) : SessionsInvariant (sessionsStep codec s action) := by
  cases sessionsStep_move s with
  | lived tombstones leases outbound owner =>
    exact invariant_of_same valid (tombstones ▸ valid.counted) leases outbound owner
  | buried event tombstones leases outbound owner =>
    exact invariant_of_same valid (tombstones ▸ TombstoneStore.push_counted valid.counted) leases outbound owner
  | answered answer => exact answered_invariant valid answer
  | acked answer => exact acked_invariant valid answer

theorem answered_outbound (answered : Answered s channelId request next) :
    ∀ entry, entry ∈ s.outbound → entry ∈ next.outbound := by
  cases answered with
  | silent => exact fun _ sent => sent
  | refused | unfinished | finished => exact posted_more

theorem acked_outbound (acked : Acked s ack next) : next.outbound = s.outbound := by
  cases acked with
  | refused => rfl
  | unbound form => exact acknowledged_parts.2.2.1
  | leased held => exact acknowledged_parts.2.2.1

theorem sessionsStep_outbound : ∀ entry, entry ∈ s.outbound → entry ∈ (sessionsStep codec s action).outbound := by
  cases sessionsStep_move s with
  | lived tombstones leases outbound owner | buried event tombstones leases outbound owner => exact fun _ sent => outbound ▸ sent
  | answered answer => exact answered_outbound answer
  | acked answer => exact fun _ sent => acked_outbound answer ▸ sent

theorem answered_tombstones (answered : Answered s channelId request next) : next.tombstones = s.tombstones := by
  cases answered <;> rfl

-- The oldest left, and the event coming in did not fit beside it and its successors.
def BoundEvicted (s : Sessions) (event : DeviceSessionExitTombstone) : Prop :=
  ∃ incoming before after, s.tombstones.entries = before ++ event :: after ∧
    TombstoneStore.Crowded (TombstoneStore.weight incoming) (event :: after).length
      ((event :: after).map TombstoneStore.weight).sum

structure Acknowledges (s : Sessions) (ack : DeviceExitAck) (event : DeviceSessionExitTombstone) : Prop where
  listed : event.eventId ∈ ack.eventIds
  entitled : ack.Unbound ∨ (Leased s ack ∧ CompletedUnder s ack.requestId ack.snapshotOwnerId ack.snapshotEpoch)

theorem acknowledged_listed (present : event ∈ s.tombstones.entries)
    (gone : event ∉ (s.acknowledged eventIds).tombstones.entries) : event.eventId ∈ eventIds := by
  rw [(acknowledged_parts).1,TombstoneStore.acknowledge_entries] at gone
  by_contra unlisted
  exact gone (List.mem_filter.mpr ⟨present,by simpa using unlisted⟩)

theorem acked_removed (valid : SessionsInvariant s) (acked : Acked s ack next) (present : event ∈ s.tombstones.entries)
    (gone : event ∉ next.tombstones.entries) : Acknowledges s ack event := by
  cases acked with
  | refused => exact absurd present gone
  | unbound form => exact ⟨acknowledged_listed present gone,.inl form⟩
  | leased held =>
    have before : event ∈ (s.withoutLease ack.requestId).tombstones.entries := present
    exact ⟨acknowledged_listed before gone,.inr ⟨held,valid.backed _ _ held⟩⟩

-- A tombstone leaves only by an ack entitled to it or by the store's bounds.
theorem tombstone_removed (valid : SessionsInvariant s) (present : event ∈ s.tombstones.entries)
    (gone : event ∉ (sessionsStep codec s action).tombstones.entries) :
    (∃ ack, action = .exitAck ack ∧ Acknowledges s ack event) ∨ BoundEvicted s event := by
  cases sessionsStep_move s with
  | lived tombstones leases outbound owner => exact absurd (tombstones ▸ present) gone
  | buried incoming tombstones leases outbound owner =>
    rw [tombstones] at gone
    obtain ⟨before,after,parts,crowded⟩ := TombstoneStore.pushed_out valid.counted present gone
    exact .inr ⟨incoming,before,after,parts,crowded⟩
  | answered answer =>
    rw [answered_tombstones answer] at gone
    exact absurd present gone
  | acked answer => exact .inl ⟨_,rfl,acked_removed valid answer present gone⟩

-- No ack under its id, and no other catalog completed while the leases are at their limit.
def SparesLease (requestId : String) (s : Sessions) : SessionsAction → Prop
  | .exitAck ack => ack.requestId ≠ requestId
  | .catalog _ _ _ request => request.requestId ≠ requestId ∧
      (request.requestId ∈ s.catalogLeases ∨ size s.catalogLeases < catalogLeaseLimit)
  | _ => True

theorem answered_spares (answered : Answered s channelId request next) (differs : request.requestId ≠ requestId)
    (room : request.requestId ∈ s.catalogLeases ∨ size s.catalogLeases < catalogLeaseLimit) :
    next.catalogLeases.lookup requestId = s.catalogLeases.lookup requestId := by
  cases answered with
  | silent | refused | unfinished => rfl
  | finished catalog stamped complete =>
    simp only [Sessions.grantLease,AList.lookup_insert_ne differs.symm]
    rw [if_neg]
    · rfl
    · rintro ⟨absent,full⟩
      rcases room with held | few
      · exact absent held
      · exact absurd full (Nat.not_le.mpr few)

theorem acked_spares (acked : Acked s ack next) (differs : ack.requestId ≠ requestId) :
    next.catalogLeases.lookup requestId = s.catalogLeases.lookup requestId := by
  cases acked with
  | refused => rfl
  | unbound form => rw [(acknowledged_parts).2.1]
  | leased held =>
    rw [(acknowledged_parts).2.1]
    exact AList.lookup_erase_ne differs.symm

theorem sessionsStep_spares (spares : SparesLease requestId s action) :
    (sessionsStep codec s action).catalogLeases.lookup requestId = s.catalogLeases.lookup requestId := by
  cases sessionsStep_move s with
  | lived tombstones leases outbound owner | buried event tombstones leases outbound owner => rw [leases]
  | answered answer => exact answered_spares answer spares.1 spares.2
  | acked answer => exact acked_spares answer spares

theorem answered_leased (answered : Answered s channel request next)
    (sent : next.outbound = s.outbound ++ [(channelId,.sessionCatalog catalog)]) (complete : catalog.complete = true) :
    next.catalogLeases.lookup catalog.requestId = some ⟨catalog.snapshotOwnerId,catalog.snapshotEpoch⟩ := by
  cases answered with
  | silent => simp at sent
  | refused message =>
    have last := List.append_cancel_left sent
    simp at last
  | unfinished page stamped more =>
    have last := List.append_cancel_left sent
    simp only [List.cons.injEq,Prod.mk.injEq,DevicePayload.sessionCatalog.injEq,and_true] at last
    rw [last.2,complete] at more
    cases more
  | finished page stamped ends =>
    have last := List.append_cancel_left sent
    simp only [List.cons.injEq,Prod.mk.injEq,DevicePayload.sessionCatalog.injEq,and_true] at last
    rw [← last.2,stamped.requestId,stamped.owner,stamped.epoch]
    exact AList.lookup_insert _

theorem completion_leased (sent : (sessionsStep codec s action).outbound = s.outbound ++ [(channelId,.sessionCatalog catalog)])
    (complete : catalog.complete = true) :
    (sessionsStep codec s action).catalogLeases.lookup catalog.requestId =
      some ⟨catalog.snapshotOwnerId,catalog.snapshotEpoch⟩ := by
  have longer : (sessionsStep codec s action).outbound ≠ s.outbound := by
    rw [sent]
    exact fun same => by simp at same
  cases sessionsStep_move s with
  | lived tombstones leases outbound owner | buried event tombstones leases outbound owner => exact absurd outbound longer
  | answered answer => exact answered_leased answer sent complete
  | acked answer => exact absurd (acked_outbound answer) longer

end Coflux.Sessiond
