import Coflux.Sessiond.Catalog

namespace Coflux.Runtime
open FiniteMap StepMachine Coflux.Sessiond

-- A query collects the pages of one snapshot under a wire id of its own, leaves the table with the
-- last page, and is committed under a gate it shares with the server's authentication.

def catalogPageBytes : Nat := 512 * 1024
def catalogSessionLimit : Nat := 128
def catalogExitLimit : Nat := 4096
def catalogAssemblyBytes : Nat := 12 * 1024 * 1024
def catalogExternalQueryLimit : Nat := 64
def catalogExternalAssemblyBytes : Nat := 12 * 1024 * 1024
def internalCatalogRequestId : String := "__coflux-worker-reconcile"
def internalChannelId : String := "__coflux-worker"

structure CatalogQuery where
  wireRequestId : String
  serverGeneration : Nat
  snapshotOwnerId : String
  (snapshotEpoch nextSessionOffset nextExitOffset : Nat)
  sessions : List DeviceSessionInfo
  exits : List DeviceSessionExitTombstone
  retainedBytes : Nat
  sentAt : Option Nat
  rerun : Bool

def CatalogQuery.new (wireRequestId : String) (serverGeneration : Nat) : CatalogQuery where
  wireRequestId := wireRequestId
  serverGeneration := serverGeneration
  snapshotOwnerId := ""
  snapshotEpoch := 0
  nextSessionOffset := 0
  nextExitOffset := 0
  sessions := []
  exits := []
  retainedBytes := 0
  sentAt := none
  rerun := false

structure CatalogState where
  serverGeneration : Nat
  queries : Table String CatalogQuery
  (internalRetainedBytes externalRetainedBytes : Nat)

namespace CatalogState

def empty : CatalogState := ⟨0,∅,0,0⟩

section
variable (pending : CatalogState)

section
variable (requestId : String)

def retainedBytes : Nat :=
  if requestId = internalCatalogRequestId then pending.internalRetainedBytes else pending.externalRetainedBytes

def retainedLimit : Nat :=
  if requestId = internalCatalogRequestId then catalogAssemblyBytes else catalogExternalAssemblyBytes

def release (bytes : Nat) : CatalogState :=
  if requestId = internalCatalogRequestId then
    {pending with internalRetainedBytes := pending.internalRetainedBytes - bytes}
  else {pending with externalRetainedBytes := pending.externalRetainedBytes - bytes}

def retain (bytes : Nat) : CatalogState :=
  if requestId = internalCatalogRequestId then
    {pending with internalRetainedBytes := pending.internalRetainedBytes + bytes}
  else {pending with externalRetainedBytes := pending.externalRetainedBytes + bytes}

def remove : CatalogState :=
  match pending.queries.lookup requestId with
  | none => pending
  | some query => {pending with queries := pending.queries.erase requestId}.release requestId query.retainedBytes

def insert (query : CatalogQuery) : CatalogState :=
  let kept := (pending.remove requestId).retain requestId query.retainedBytes
  {kept with queries := kept.queries.insert requestId query}

end

def clear : CatalogState :=
  {pending with
    queries := ∅
    internalRetainedBytes := 0
    externalRetainedBytes := 0}

-- wrapping_add(1).max(1): generation 0 is only the one before any server.
def advanceServerGeneration : CatalogState :=
  {pending with serverGeneration := max ((pending.serverGeneration + 1) % 2 ^ 64) 1}

end

end CatalogState

inductive Effect where
  | replaceAlive (alive : Table String (String × Int))
  | sessionExited (sessionId : String)
  | cancelSessionExit (sessionId : String)
  | oweSessionContent (sessionId : String)
  | reportSessionExit (sessionId : String) (exitCode : Int)
  | publish (catalog : DeviceSessionCatalog)

-- Where the thread that extracted a query is on its way through the gate.
inductive CommitStage where
  | extracted
  | gated
  | admitted
  | collecting (changed fresh : List String)
  | effecting (remaining : List Effect)
  | finished
  | rejected

-- The last two fields are history: the generation changes before the extraction, and the effects so
-- far, each with the changes before it.
structure Completion where
  logicalRequestId : String
  query : CatalogQuery
  requestRerun : Bool
  stage : CommitStage
  extractedAt : Nat
  performed : List (Effect × Nat)

-- A thread in server_authenticated.
inductive AuthStage where
  | arrived
  | gated
  | advanced
  | cleared
  | finished

inductive GateHolder where
  | completion (index : Nat)
  | authentication (index : Nat)

structure Publication where
  wireRequestId : String
  catalog : DeviceSessionCatalog

-- toSupervisor and published record everything that went that way.
structure CatalogRuntime where
  (processId internalSequence : Nat)
  supervisorOnline : Bool
  pending : CatalogState
  toSupervisor : List DeviceSessionCatalogRequest
  alive : Table String (String × Int)
  catalogs : Table String DeviceSessionCatalog
  gate : Option GateHolder
  completions : List Completion
  authentications : List AuthStage
  published : List Publication
  changes : Nat

namespace CatalogRuntime

def new (processId : Nat) : CatalogRuntime where
  processId := processId
  internalSequence := 0
  supervisorOnline := false
  pending := .empty
  toSupervisor := []
  alive := ∅
  catalogs := ∅
  gate := none
  completions := []
  authentications := []
  published := []
  changes := 0

section
variable (r : CatalogRuntime)

-- The counter wraps, the number drawn from it saturates.
def nextInternalId (kind : String) : String × CatalogRuntime :=
  let sequence := min (r.internalSequence + 1) u64Max
  (s!"worker-{kind}-{r.processId}-{sequence}",{r with internalSequence := (r.internalSequence + 1) % 2 ^ 64})

def newCatalogQuery : CatalogQuery × CatalogRuntime :=
  let (wireRequestId,drawn) := r.nextInternalId "catalog-wire"
  (.new wireRequestId r.pending.serverGeneration,drawn)

section
variable (requestId : String)

def startQuery (rerun : Bool) : CatalogRuntime :=
  let (query,drawn) := r.newCatalogQuery
  {drawn with pending := r.pending.insert requestId {query with rerun := rerun}}

def setQuery (query : CatalogQuery) : CatalogRuntime :=
  {r with pending := {r.pending with queries := r.pending.queries.insert requestId query}}

def pageRequest (query : CatalogQuery) : DeviceSessionCatalogRequest :=
  ⟨query.wireRequestId,query.snapshotOwnerId,query.snapshotEpoch,query.nextSessionOffset,query.nextExitOffset,
    catalogPageBytes⟩

-- A query the supervisor's queue does not take counts as unsent again.
def sendCatalogPage (now : Nat) (room : Bool) : CatalogRuntime :=
  if r.supervisorOnline then
    match r.pending.queries.lookup requestId with
    | none => r
    | some query =>
      if room then
        {r.setQuery requestId {query with sentAt := some now} with
          toSupervisor := r.toSupervisor ++ [pageRequest query]}
      else r.setQuery requestId {query with sentAt := none}
  else r

def validId (value : String) : Bool :=
  value ≠ "" && value.utf8ByteSize ≤ maxFrameIdBytes && !value.toList.any fun c => c.toNat < 32 || c.toNat = 127

def requestCatalog (internal : Bool) (now : Nat) (room : Bool) :
    CatalogRuntime :=
  if !validId requestId then r
  else match r.pending.queries.lookup requestId with
    | some query =>
      -- An internal query that has begun may have missed the change it is
      -- now asked about.
      if internal && (query.sentAt.isSome || query.nextSessionOffset ≠ 0 || query.nextExitOffset ≠ 0) then
        r.setQuery requestId {query with rerun := true}
      else r
    | none =>
      if !internal && (r.pending.queries.keys.filter (· ≠ internalCatalogRequestId)).length ≥
          catalogExternalQueryLimit then r
      else (r.startQuery requestId false).sendCatalogPage requestId now room

def requestServerCatalog (now : Nat) (room : Bool) : CatalogRuntime :=
  if requestId = internalCatalogRequestId then r else r.requestCatalog requestId false now room

end

def requestReconciliationCatalog (now : Nat) (room : Bool) : CatalogRuntime :=
  r.requestCatalog internalCatalogRequestId true now room

-- Every pending intent goes on under a new wire id. The ids are drawn in the
-- order the table lists its keys.
def rotateCatalogRounds : CatalogRuntime :=
  r.pending.queries.keys.foldl (fun r requestId => r.startQuery requestId false) {r with pending := r.pending.clear}

def supervisorConnected : CatalogRuntime :=
  {r with supervisorOnline := true}.rotateCatalogRounds

def supervisorDisconnected : CatalogRuntime :=
  {r with supervisorOnline := false}.rotateCatalogRounds

def findQuery (wireRequestId : String) : Option (String × CatalogQuery) :=
  (entries r.pending.queries).find? fun entry => entry.2.wireRequestId = wireRequestId

def catalogError (requestId : Option String) : CatalogRuntime :=
  match requestId.bind r.findQuery with
  | none => r
  | some (logicalRequestId,query) => r.startQuery logicalRequestId query.rerun

end

end CatalogRuntime

-- The tests of handle_catalog_page on one page.
namespace CatalogQuery

-- A page of a sessiond older than paging.
def legacyPage (catalog : DeviceSessionCatalog) : Bool :=
  catalog.snapshotOwnerId = "" && catalog.snapshotEpoch = 0 && catalog.sessionOffset = 0 && catalog.exitOffset = 0 &&
    catalog.nextSessionOffset = 0 && catalog.nextExitOffset = 0 && !catalog.complete && !catalog.reset

section
variable (query : CatalogQuery) (catalog : DeviceSessionCatalog)

def epochMatches : Bool :=
  legacyPage catalog || query.snapshotOwnerId = "" ||
    (query.snapshotOwnerId = catalog.snapshotOwnerId && query.snapshotEpoch = catalog.snapshotEpoch)

-- A page wholly inside what has been collected is a harmless repetition.
def stalePage : Bool :=
  !legacyPage catalog && query.epochMatches catalog &&
    catalog.sessionOffset ≤ query.nextSessionOffset && catalog.exitOffset ≤ query.nextExitOffset &&
    catalog.nextSessionOffset ≤ query.nextSessionOffset && catalog.nextExitOffset ≤ query.nextExitOffset &&
    (catalog.sessionOffset ≠ query.nextSessionOffset || catalog.exitOffset ≠ query.nextExitOffset)

def offsetsMatch : Bool :=
  legacyPage catalog || (catalog.sessionOffset = query.nextSessionOffset && catalog.exitOffset = query.nextExitOffset &&
      catalog.nextSessionOffset ≥ catalog.sessionOffset && catalog.nextExitOffset ≥ catalog.exitOffset &&
      catalog.nextSessionOffset - catalog.sessionOffset = catalog.sessions.length &&
      catalog.nextExitOffset - catalog.exitOffset = catalog.exits.length)

end

def pageProgressed (catalog : DeviceSessionCatalog) : Bool :=
  legacyPage catalog || catalog.complete || catalog.nextSessionOffset > catalog.sessionOffset ||
    catalog.nextExitOffset > catalog.exitOffset

def addedBytes (codec : DeviceCodec) (catalog : DeviceSessionCatalog) : Nat :=
  (catalog.sessions.map codec.sessionLen).sum + (catalog.exits.map codec.exitLen).sum

-- pending is the table without the query itself.
def withinBounds (codec : DeviceCodec) (pending : CatalogState) (logicalRequestId : String) (query : CatalogQuery)
    (catalog : DeviceSessionCatalog) : Bool :=
  query.sessions.length + catalog.sessions.length ≤ catalogSessionLimit &&
    query.exits.length + catalog.exits.length ≤ catalogExitLimit &&
    addedBytes codec catalog ≤ catalogAssemblyBytes - query.retainedBytes &&
    pending.retainedBytes logicalRequestId + query.retainedBytes + addedBytes codec catalog ≤
      CatalogState.retainedLimit logicalRequestId

def extended (codec : DeviceCodec) (query : CatalogQuery) (catalog : DeviceSessionCatalog) : CatalogQuery :=
  let first := !legacyPage catalog && query.snapshotOwnerId = ""
  {query with
    sentAt := none
    snapshotOwnerId := if first then catalog.snapshotOwnerId else query.snapshotOwnerId
    snapshotEpoch := if first then catalog.snapshotEpoch else query.snapshotEpoch
    nextSessionOffset := if legacyPage catalog then catalog.sessions.length else catalog.nextSessionOffset
    nextExitOffset := if legacyPage catalog then catalog.exits.length else catalog.nextExitOffset
    retainedBytes := query.retainedBytes + addedBytes codec catalog
    sessions := query.sessions ++ catalog.sessions
    exits := query.exits ++ catalog.exits}

end CatalogQuery

namespace CatalogRuntime
open CatalogQuery

def extract (r : CatalogRuntime) (logicalRequestId : String) (query : CatalogQuery) : CatalogRuntime :=
  let rerun := query.rerun && logicalRequestId = internalCatalogRequestId
  let done := {r with
    pending := r.pending.remove logicalRequestId
    completions := r.completions ++ [⟨logicalRequestId,{query with rerun := false},rerun,.extracted,r.changes,[]⟩]}
  if rerun then done.startQuery logicalRequestId false else done

-- The thread's way on through the gate is commitStep.
def handleCatalogPage (codec : DeviceCodec) (r : CatalogRuntime) (catalog : DeviceSessionCatalog) (now : Nat)
    (room : Bool) : CatalogRuntime :=
  match r.findQuery catalog.requestId with
  | none => r
  | some (logicalRequestId,query) =>
    if catalog.reset then (r.startQuery logicalRequestId query.rerun).sendCatalogPage logicalRequestId now room
    else if query.stalePage catalog then r
    else if query.epochMatches catalog && query.offsetsMatch catalog && pageProgressed catalog &&
        query.withinBounds codec (r.pending.remove logicalRequestId) logicalRequestId catalog then
      let query := query.extended codec catalog
      if legacyPage catalog || catalog.complete then r.extract logicalRequestId query
      else {r with pending := r.pending.insert logicalRequestId query}.sendCatalogPage logicalRequestId now room
    else (r.startQuery logicalRequestId query.rerun).sendCatalogPage logicalRequestId now room

end CatalogRuntime

-- The commit of an extracted query.
namespace Completion

section
variable (completion : Completion)

def liveIds : List String := (completion.query.sessions.map (·.sessionId)).dedup

def newAlive : Table String (String × Int) :=
  completion.query.sessions.foldl (fun alive session => alive.insert session.sessionId (session.taskId,session.pid)) ∅

-- Sessions of the old table that are gone or have another task or process.
def changedIds (alive : Table String (String × Int)) : List String :=
  ((entries alive).filter fun entry => completion.newAlive.lookup entry.1 ≠ some entry.2).map Prod.fst

def freshIds (alive : Table String (String × Int)) : List String :=
  ((entries completion.newAlive).filter fun entry => alive.lookup entry.1 ≠ some entry.2).map Prod.fst

def catalog : DeviceSessionCatalog where
  requestId := completion.logicalRequestId
  sessions := completion.query.sessions
  exits := completion.query.exits
  snapshotOwnerId := completion.query.snapshotOwnerId
  snapshotEpoch := completion.query.snapshotEpoch
  sessionOffset := 0
  exitOffset := 0
  nextSessionOffset := completion.query.sessions.length
  nextExitOffset := completion.query.exits.length
  complete := true
  reset := false

-- derived are the ids in the tables of streams, holders, agent states and pending requests.
def plan (changed fresh derived : List String) : List Effect :=
  let live := completion.liveIds
  let stale := (changed ++ derived.filter (· ∉ live)).dedup
  stale.map .sessionExited ++ live.flatMap (fun sessionId => .cancelSessionExit sessionId ::
      if sessionId ∈ fresh then [.oweSessionContent sessionId] else []) ++
    (completion.query.exits.filter (·.sessionId ∉ live)).map (fun exit => .reportSessionExit exit.sessionId exit.exitCode) ++
    if completion.logicalRequestId = internalCatalogRequestId then [] else [.publish completion.catalog]

def noted (effect : Effect) (changes : Nat) (stage : CommitStage) : Completion :=
  {completion with
    performed := completion.performed ++ [(effect,changes)]
    stage := stage}

end

end Completion

namespace CatalogRuntime

section
variable (r : CatalogRuntime)

def setCompletion (index : Nat) (completion : Completion) : CatalogRuntime :=
  {r with completions := r.completions.set index completion}

-- accepted says whether the bounded catalog outbox takes a publication.
def perform (completion : Completion) (accepted : Bool) : Effect → CatalogRuntime
  | .replaceAlive alive => {r with alive := alive}
  | .publish catalog =>
    if accepted then
      {r with
        catalogs := r.catalogs.insert completion.logicalRequestId catalog
        published := r.published ++ [⟨completion.query.wireRequestId,catalog⟩]}
    else r
  | _ => r

-- Take the gate, compare the generation, replace the alive table, read the derived tables, then one
-- effect after the other until the gate is given back.
def commitStep (index : Nat) (derived : List String) (accepted : Bool) (now : Nat) (room : Bool) :
    Option CatalogRuntime := do
  let completion ← r.completions[index]?
  match completion.stage with
  | .extracted =>
    if r.gate = none then
      some {r.setCompletion index {completion with stage := .gated} with gate := some (.completion index)}
    else none
  | .gated =>
    if completion.query.serverGeneration = r.pending.serverGeneration then
      some (r.setCompletion index {completion with stage := .admitted})
    else some {r.setCompletion index {completion with stage := .rejected} with gate := none}
  | .admitted =>
    let changed := completion.changedIds r.alive
    let fresh := completion.freshIds r.alive
    let effect := .replaceAlive completion.newAlive
    some ((r.perform completion accepted effect).setCompletion index
      (completion.noted effect r.changes (.collecting changed fresh)))
  | .collecting changed fresh =>
    some (r.setCompletion index {completion with stage := .effecting (completion.plan changed fresh derived)})
  | .effecting (effect :: rest) =>
    some ((r.perform completion accepted effect).setCompletion index (completion.noted effect r.changes (.effecting rest)))
  | .effecting [] =>
    let released := {r.setCompletion index {completion with stage := .finished} with gate := none}
    some (if completion.requestRerun then released.sendCatalogPage completion.logicalRequestId now room else released)
  | .finished => none
  | .rejected => none

def setAuthentication (index : Nat) (stage : AuthStage) : CatalogRuntime :=
  {r with authentications := r.authentications.set index stage}

-- server_authenticated from the gate on.
def authStep (index now : Nat) (room : Bool) : Option CatalogRuntime := do
  let stage ← r.authentications[index]?
  match stage with
  | .arrived =>
    if r.gate = none then
      some {r.setAuthentication index .gated with gate := some (.authentication index)}
    else none
  | .gated =>
    let advanced := {r with
      pending := r.pending.advanceServerGeneration.clear
      changes := r.changes + 1}
    some ((advanced.startQuery internalCatalogRequestId false).setAuthentication index .advanced)
  | .advanced => some {r.setAuthentication index .cleared with catalogs := ∅}
  | .cleared =>
    some ({r.setAuthentication index .finished with gate := none}.sendCatalogPage internalCatalogRequestId now room)
  | .finished => none

end

end CatalogRuntime

open CatalogRuntime (catalogError extract handleCatalogPage requestCatalog requestServerCatalog rotateCatalogRounds sendCatalogPage)

inductive RuntimeAction where
  | requestServer (requestId : String) (now : Nat) (room : Bool)
  | reconcile (now : Nat) (room : Bool)
  -- The retry loop picks its queries under one lock and sends under another.
  | resend (requestId : String) (now : Nat) (room : Bool)
  | connected
  | disconnected
  | drawId (kind : String)
  | aliveChanged (alive : Table String (String × Int))
  | commit (index : Nat) (derived : List String) (accepted : Bool) (now : Nat) (room : Bool)
  | authenticate
  | authentication (index now : Nat) (room : Bool)

def runtimeStep (r : CatalogRuntime) : RuntimeAction → Option CatalogRuntime
  | .requestServer requestId now room => some (r.requestServerCatalog requestId now room)
  | .reconcile now room => some (r.requestReconciliationCatalog now room)
  | .resend requestId now room => some (r.sendCatalogPage requestId now room)
  | .connected => some r.supervisorConnected
  | .disconnected => some r.supervisorDisconnected
  | .drawId kind => some (r.nextInternalId kind).2
  | .aliveChanged alive => some {r with alive := alive}
  | .commit index derived accepted now room => r.commitStep index derived accepted now room
  | .authenticate => some {r with authentications := r.authentications ++ [.arrived]}
  | .authentication index now room => r.authStep index now room

structure CatalogSystem where
  sessions : Sessions
  runtime : CatalogRuntime

-- Any order, any delay, any number of times, or never.
inductive CatalogAction where
  | sessiond (action : SessionsAction)
  | deliverRequest (index : Nat) (reading : String → SessionReading) (room : Bool)
  | deliverAnswer (index now : Nat) (room : Bool)
  | runtime (action : RuntimeAction)

def catalogStep (codec : DeviceCodec) (s : CatalogSystem) : CatalogAction → Option CatalogSystem
  | .sessiond action => some {s with sessions := sessionsStep codec s.sessions action}
  | .deliverRequest index reading room => do
      let request ← s.runtime.toSupervisor[index]?
      some {s with sessions := sessionsStep codec s.sessions (.catalog reading room internalChannelId request)}
  | .deliverAnswer index now room => do
      let (channelId,payload) ← s.sessions.outbound[index]?
      if channelId = internalChannelId then
        match payload with
        | .sessionCatalog catalog => some {s with runtime := s.runtime.handleCatalogPage codec catalog now room}
        | .error requestId _ _ => some {s with runtime := s.runtime.catalogError requestId}
      else none
  | .runtime action => do
      let next ← runtimeStep s.runtime action
      some {s with runtime := next}

def catalogMachine (codec : DeviceCodec) : Machine CatalogSystem CatalogAction := ⟨catalogStep codec⟩

-- hub.ts answers the exits of a catalog it has stored under the id it received.
def serverAck (catalog : DeviceSessionCatalog) (eventIds : List String) : DeviceExitAck :=
  ⟨eventIds,catalog.requestId,catalog.snapshotOwnerId,catalog.snapshotEpoch⟩

def generationAfter : Nat → Nat
  | 0 => 0
  | n + 1 => max ((generationAfter n + 1) % 2 ^ 64) 1

section
variable (pending : CatalogState)

@[simp] theorem release_queries : (pending.release key bytes).queries = pending.queries := by
  unfold CatalogState.release; split <;> rfl
@[simp] theorem release_generation :
    (pending.release key bytes).serverGeneration = pending.serverGeneration := by
  unfold CatalogState.release; split <;> rfl
@[simp] theorem retain_queries : (pending.retain key bytes).queries = pending.queries := by
  unfold CatalogState.retain; split <;> rfl
@[simp] theorem retain_generation :
    (pending.retain key bytes).serverGeneration = pending.serverGeneration := by
  unfold CatalogState.retain; split <;> rfl

@[simp] theorem remove_generation :
    (pending.remove key).serverGeneration = pending.serverGeneration := by
  unfold CatalogState.remove; split <;> simp

end

theorem remove_lookup {pending : CatalogState} (found : (pending.remove key).queries.lookup other = some query) :
    pending.queries.lookup other = some query := by
  unfold CatalogState.remove at found
  split at found
  · exact found
  · rw [release_queries] at found
    exact erase_lookup found

@[simp] theorem insert_generation (pending : CatalogState) :
    (pending.insert key query).serverGeneration = pending.serverGeneration := by
  simp [CatalogState.insert]

theorem insert_lookup {pending : CatalogState} (found : (pending.insert key query).queries.lookup other = some result) :
    (other = key ∧ result = query) ∨ pending.queries.lookup other = some result := by
  simp only [CatalogState.insert,retain_queries] at found
  rcases FiniteMap.insert_lookup found with here | ⟨_,before⟩
  · exact .inl here
  · exact .inr (remove_lookup before)

theorem findQuery_lookup {r : CatalogRuntime} (found : r.findQuery wire = some (key,query)) :
    r.pending.queries.lookup key = some query ∧ query.wireRequestId = wire := by
  have mem := List.mem_of_find?_eq_some found
  have named := List.find?_some found
  exact ⟨entries_lookup mem,by simpa using named⟩

inductive CommitMove (r : CatalogRuntime) (index : Nat) (completion : Completion) : CatalogRuntime → Prop where
  | enter (stage : completion.stage = .extracted) (free : r.gate = none) :
      CommitMove r index completion
        {r.setCompletion index {completion with stage := .gated} with gate := some (.completion index)}
  | admitted (stage : completion.stage = .gated)
      (same : completion.query.serverGeneration = r.pending.serverGeneration) :
      CommitMove r index completion (r.setCompletion index {completion with stage := .admitted})
  | reject (stage : completion.stage = .gated)
      (other : completion.query.serverGeneration ≠ r.pending.serverGeneration) :
      CommitMove r index completion {r.setCompletion index {completion with stage := .rejected} with gate := none}
  | replace (stage : completion.stage = .admitted) :
      CommitMove r index completion ((r.perform completion accepted (.replaceAlive completion.newAlive)).setCompletion index
        (completion.noted (.replaceAlive completion.newAlive) r.changes
          (.collecting (completion.changedIds r.alive) (completion.freshIds r.alive))))
  | collect (stage : completion.stage = .collecting changed fresh) :
      CommitMove r index completion
        (r.setCompletion index {completion with stage := .effecting (completion.plan changed fresh derived)})
  | effect (stage : completion.stage = .effecting (effect :: rest)) :
      CommitMove r index completion ((r.perform completion accepted effect).setCompletion index
        (completion.noted effect r.changes (.effecting rest)))
  | release (stage : completion.stage = .effecting []) :
      CommitMove r index completion {r.setCompletion index {completion with stage := .finished} with gate := none}
  | rerun (stage : completion.stage = .effecting []) :
      CommitMove r index completion
        ({r.setCompletion index {completion with stage := .finished} with gate := none}.sendCatalogPage
          completion.logicalRequestId now room)

theorem commitStep_move (step : r.commitStep index derived accepted now room = some next) :
    ∃ completion, r.completions[index]? = some completion ∧ CommitMove r index completion next := by
  unfold CatalogRuntime.commitStep at step
  cases present : r.completions[index]? with
  | none => simp [present] at step
  | some completion =>
    refine ⟨completion,rfl,?_⟩
    simp only [present,Option.bind_eq_bind,Option.bind_some] at step
    split at step
    · rename_i stage
      obtain ⟨free,rfl⟩ := guard_parts step
      exact .enter stage free
    · rename_i stage
      split at step
      · rename_i same
        cases step
        exact .admitted stage same
      · rename_i other
        cases step
        exact .reject stage other
    · rename_i stage
      cases step
      exact .replace stage
    · rename_i stage
      cases step
      exact .collect stage
    · rename_i stage
      cases step
      exact .effect stage
    · rename_i stage
      cases step
      split
      · exact .rerun stage
      · exact .release stage
    · cases step
    · cases step

inductive AuthMove (r : CatalogRuntime) (index : Nat) : AuthStage → CatalogRuntime → Prop where
  | enter (free : r.gate = none) :
      AuthMove r index .arrived {r.setAuthentication index .gated with gate := some (.authentication index)}
  | advance :
      AuthMove r index .gated (({r with
            pending := r.pending.advanceServerGeneration.clear
            changes := r.changes + 1}.startQuery internalCatalogRequestId false).setAuthentication index .advanced)
  | clear : AuthMove r index .advanced {r.setAuthentication index .cleared with catalogs := ∅}
  | release :
      AuthMove r index .cleared
        ({r.setAuthentication index .finished with gate := none}.sendCatalogPage internalCatalogRequestId now room)

theorem authStep_move (step : r.authStep index now room = some next) :
    ∃ stage, r.authentications[index]? = some stage ∧ AuthMove r index stage next := by
  unfold CatalogRuntime.authStep at step
  cases present : r.authentications[index]? with
  | none => simp [present] at step
  | some stage =>
    refine ⟨stage,rfl,?_⟩
    simp only [present,Option.bind_eq_bind,Option.bind_some] at step
    split at step
    · obtain ⟨free,rfl⟩ := guard_parts step
      exact .enter free
    · cases step
      exact .advance
    · cases step
      exact .clear
    · cases step
      exact .release
    · cases step

-- The closure conditions are what every step but a page needs.
structure QueryRule (part whole : Nat → CatalogQuery → Prop) : Prop where
  fresh : ∀ n wire, part n (.new wire (generationAfter n))
  resent : ∀ n query time, part n query → part n {query with sentAt := time}
  rerun : ∀ n query again, part n query → part n {query with rerun := again}
  closed : ∀ n query again, whole n query → whole n {query with rerun := again}

structure Collects (part whole : Nat → CatalogQuery → Prop) (r : CatalogRuntime) : Prop where
  generation : r.pending.serverGeneration = generationAfter r.changes
  pending : ∀ key query, r.pending.queries.lookup key = some query → part r.changes query
  extracted : ∀ completion ∈ r.completions, whole completion.extractedAt completion.query

section Collecting
theorem new_collects : Collects part whole (.new processId) :=
  ⟨rfl,(by intro key query found; cases found),(by intro completion mem; cases mem)⟩

theorem setQuery_collects (valid : Collects part whole r) (good : part r.changes query) :
    Collects part whole (r.setQuery key query) :=
  ⟨valid.generation,Each.insert valid.pending good,valid.extracted⟩

theorem insert_collects (valid : Collects part whole r) (good : part r.changes query) :
    Collects part whole {r with pending := r.pending.insert key query} := by
  refine ⟨by simpa using valid.generation,?_,valid.extracted⟩
  intro other result found
  rcases insert_lookup found with ⟨rfl,rfl⟩ | old
  · exact good
  · exact valid.pending _ _ old

variable (rule : QueryRule part whole)
include rule

section
variable (valid : Collects part whole r)
include valid

theorem startQuery_collects : Collects part whole (r.startQuery key again) := by
  have started : part r.changes {CatalogQuery.new (r.nextInternalId "catalog-wire").1 r.pending.serverGeneration with
      rerun := again} := by
    rw [valid.generation]
    exact rule.rerun _ _ _ (rule.fresh _ _)
  obtain ⟨generation,pending,extracted⟩ := insert_collects valid started
  exact ⟨generation,pending,extracted⟩

theorem sendCatalogPage_collects :
    Collects part whole (r.sendCatalogPage key now room) := by
  unfold sendCatalogPage
  split
  · split
    · exact valid
    · rename_i query found
      have good := valid.pending _ query found
      split
      · obtain ⟨generation,pending,extracted⟩ := setQuery_collects valid (rule.resent _ _ (some _) good)
        exact ⟨generation,pending,extracted⟩
      · exact setQuery_collects valid (rule.resent _ _ _ good)
  · exact valid

theorem requestCatalog_collects :
    Collects part whole (r.requestCatalog key internal now room) := by
  unfold requestCatalog
  split
  · exact valid
  · split
    · rename_i query found
      split
      · exact setQuery_collects valid (rule.rerun _ _ _ (valid.pending _ query found))
      · exact valid
    · split
      · exact valid
      · exact sendCatalogPage_collects rule (startQuery_collects rule valid)

theorem rotate_collects : Collects part whole r.rotateCatalogRounds := by
  unfold rotateCatalogRounds
  have cleared : Collects part whole {r with pending := r.pending.clear} :=
    ⟨valid.generation,(by intro key query found; cases found),valid.extracted⟩
  exact List.foldlRecOn _ _ cleared (fun _ good _ _ => startQuery_collects rule good)

theorem catalogError_collects : Collects part whole (r.catalogError key) := by
  unfold catalogError
  split
  · exact valid
  · exact startQuery_collects rule valid

theorem extract_collects (good : whole r.changes query) : Collects part whole (r.extract key query) := by
  have done : Collects part whole {r with
      pending := r.pending.remove key
      completions := r.completions ++ [⟨key,{query with rerun := false},
        query.rerun && key = internalCatalogRequestId,.extracted,r.changes,[]⟩]} := by
    refine ⟨by simpa using valid.generation,?_,?_⟩
    · intro other result found
      exact valid.pending _ _ (remove_lookup found)
    · intro completion mem
      rcases List.mem_append.mp mem with old | new
      · exact valid.extracted _ old
      · rw [List.mem_singleton.mp new]
        exact rule.closed _ _ _ good
  unfold extract
  simp only
  split
  · exact startQuery_collects rule done
  · exact done

structure Taken (codec : DeviceCodec) (r : CatalogRuntime) (key : String) (query : CatalogQuery)
    (catalog : DeviceSessionCatalog) : Prop where
  found : r.pending.queries.lookup key = some query
  wire : query.wireRequestId = catalog.requestId
  kept : catalog.reset = false
  epoch : query.epochMatches catalog = true
  offsets : query.offsetsMatch catalog = true
  progressed : CatalogQuery.pageProgressed catalog = true
  bounds : query.withinBounds codec (r.pending.remove key) key catalog = true

theorem handleCatalogPage_collects {codec : DeviceCodec}
    (grows : ∀ key query, Taken codec r key query catalog → part r.changes query →
      catalog.complete = false → CatalogQuery.legacyPage catalog = false → part r.changes (query.extended codec catalog))
    (ends : ∀ key query, Taken codec r key query catalog → part r.changes query →
      CatalogQuery.legacyPage catalog = true ∨ catalog.complete = true → whole r.changes (query.extended codec catalog)) :
    Collects part whole (r.handleCatalogPage codec catalog now room) := by
  unfold handleCatalogPage
  have restarted : ∀ key again, Collects part whole ((r.startQuery key again).sendCatalogPage key now room) :=
    fun _ _ => sendCatalogPage_collects rule (startQuery_collects rule valid)
  split
  · exact valid
  · rename_i key query found
    obtain ⟨here,wire⟩ := findQuery_lookup found
    split
    · exact restarted _ _
    · rename_i kept
      split
      · exact valid
      · split
        · rename_i tests
          simp only [Bool.and_eq_true] at tests
          have taken : Taken codec r key query catalog :=
            ⟨here,wire,by simpa using kept,tests.1.1.1,tests.1.1.2,tests.1.2,tests.2⟩
          have good := valid.pending _ query here
          simp only
          split
          · rename_i last
            exact extract_collects rule valid (ends _ query taken good (by simpa using last))
          · rename_i more
            have more : CatalogQuery.legacyPage catalog = false ∧ catalog.complete = false := by simpa using more
            exact sendCatalogPage_collects rule (insert_collects valid (grows _ query taken good more.2 more.1))
        · exact restarted _ _

omit rule in
theorem setCompletion_collects (present : r.completions[index]? = some old) (query : new.query = old.query)
    (extractedAt : new.extractedAt = old.extractedAt) : Collects part whole (r.setCompletion index new) := by
  refine ⟨valid.generation,valid.pending,?_⟩
  intro completion mem
  rcases List.mem_or_eq_of_mem_set mem with earlier | rfl
  · exact valid.extracted _ earlier
  · rw [query,extractedAt]
    exact valid.extracted _ (List.mem_of_getElem? present)

omit rule in
theorem perform_collects :
    Collects part whole (r.perform completion accepted effect) ∧
      (r.perform completion accepted effect).completions = r.completions := by
  cases effect with
  | publish catalog =>
    unfold CatalogRuntime.perform
    simp only
    split <;> exact ⟨{valid with},rfl⟩
  | _ => exact ⟨{valid with},rfl⟩

theorem commit_collects (present : r.completions[index]? = some completion)
    (move : CommitMove r index completion next) : Collects part whole next := by
  have staged : ∀ stage, Collects part whole (r.setCompletion index {completion with stage := stage}) :=
    fun _ => setCompletion_collects valid present rfl rfl
  cases move with
  | enter stage free => exact ⟨(staged .gated).1,(staged .gated).2,(staged .gated).3⟩
  | admitted | collect => exact staged _
  | reject stage other => exact ⟨(staged .rejected).1,(staged .rejected).2,(staged .rejected).3⟩
  | replace stage =>
    obtain ⟨performed,same⟩ := perform_collects valid
    exact setCompletion_collects performed ((congrArg (·[index]?) same).trans present) rfl rfl
  | effect stage =>
    obtain ⟨performed,same⟩ := perform_collects valid
    exact setCompletion_collects performed ((congrArg (·[index]?) same).trans present) rfl rfl
  | release stage => exact ⟨(staged .finished).1,(staged .finished).2,(staged .finished).3⟩
  | rerun stage =>
    apply sendCatalogPage_collects rule
    exact ⟨(staged .finished).1,(staged .finished).2,(staged .finished).3⟩

theorem auth_collects (move : AuthMove r index stage next) : Collects part whole next := by
  cases move with
  | enter | clear => exact {valid with}
  | advance =>
    have cleared : Collects part whole {r with
        pending := r.pending.advanceServerGeneration.clear
        changes := r.changes + 1} := by
      refine ⟨?_,(by intro key query found; cases found),valid.extracted⟩
      simp only [CatalogState.clear,CatalogState.advanceServerGeneration,generationAfter,valid.generation]
    obtain ⟨generation,pending,extracted⟩ := startQuery_collects rule cleared
    exact ⟨generation,pending,extracted⟩
  | release =>
    apply sendCatalogPage_collects rule
    exact {valid with}

theorem runtimeStep_collects (step : runtimeStep r action = some next) : Collects part whole next := by
  cases action with
  | requestServer key now room =>
    cases step
    unfold requestServerCatalog
    split
    · exact valid
    · exact requestCatalog_collects rule valid
  | reconcile now room => cases step; exact requestCatalog_collects rule valid
  | resend key now room => cases step; exact sendCatalogPage_collects rule valid
  | connected | disconnected =>
    cases step
    apply rotate_collects rule
    exact {valid with}
  | drawId | aliveChanged | authenticate => cases step; exact {valid with}
  | commit index derived accepted now room =>
    obtain ⟨_,present,move⟩ := commitStep_move step
    exact commit_collects rule valid present move
  | authentication index now room =>
    obtain ⟨_,_,move⟩ := authStep_move step
    exact auth_collects rule valid move

end

end Collecting

structure Untouched (r next : CatalogRuntime) : Prop where
  completions : next.completions = r.completions
  authentications : next.authentications = r.authentications
  gate : next.gate = r.gate
  published : next.published = r.published
  changes : next.changes = r.changes

section Frame
theorem Untouched.refl : Untouched r r := ⟨rfl,rfl,rfl,rfl,rfl⟩

theorem Untouched.trans (one : Untouched r next) (two : Untouched next later) : Untouched r later :=
  ⟨two.1.trans one.1,two.2.trans one.2,two.3.trans one.3,two.4.trans one.4,two.5.trans one.5⟩

theorem startQuery_untouched : Untouched r (r.startQuery key again) := ⟨rfl,rfl,rfl,rfl,rfl⟩

theorem sendCatalogPage_untouched : Untouched r (r.sendCatalogPage key now room) := by
  unfold sendCatalogPage
  split
  · split
    · exact .refl
    · split <;> exact ⟨rfl,rfl,rfl,rfl,rfl⟩
  · exact .refl

theorem requestCatalog_untouched : Untouched r (r.requestCatalog key internal now room) := by
  unfold requestCatalog
  split
  · exact .refl
  · split
    · split
      · exact ⟨rfl,rfl,rfl,rfl,rfl⟩
      · exact .refl
    · split
      · exact .refl
      · exact startQuery_untouched.trans sendCatalogPage_untouched

theorem rotate_untouched : Untouched r r.rotateCatalogRounds := by
  unfold rotateCatalogRounds
  have cleared : Untouched r {r with pending := r.pending.clear} := ⟨rfl,rfl,rfl,rfl,rfl⟩
  exact List.foldlRecOn _ _ cleared (fun _ kept _ _ => kept.trans startQuery_untouched)

theorem catalogError_untouched : Untouched r (r.catalogError requestId) := by
  unfold catalogError
  split
  · exact .refl
  · exact startQuery_untouched

structure Extracted (r next : CatalogRuntime) (completion : Completion) : Prop where
  completions : next.completions = r.completions ++ [completion]
  stage : completion.stage = .extracted
  extractedAt : completion.extractedAt = r.changes
  performed : completion.performed = []
  authentications : next.authentications = r.authentications
  gate : next.gate = r.gate
  published : next.published = r.published
  changes : next.changes = r.changes

theorem extract_extracted : ∃ completion, Extracted r (r.extract key query) completion := by
  unfold extract
  simp only
  split <;> exact ⟨_,rfl,rfl,rfl,rfl,rfl,rfl,rfl,rfl⟩

theorem handleCatalogPage_frame : Untouched r (r.handleCatalogPage codec catalog now room) ∨
    ∃ completion, Extracted r (r.handleCatalogPage codec catalog now room) completion := by
  unfold handleCatalogPage
  split
  · exact .inl .refl
  · split
    · exact .inl (startQuery_untouched.trans sendCatalogPage_untouched)
    · split
      · exact .inl .refl
      · split
        · simp only
          split
          · exact .inr extract_extracted
          · refine .inl (Untouched.trans ?_ sendCatalogPage_untouched)
            exact ⟨rfl,rfl,rfl,rfl,rfl⟩
        · exact .inl (startQuery_untouched.trans sendCatalogPage_untouched)

inductive CommitView (r : CatalogRuntime) : CatalogRuntime → Prop where
  | untouched {after : CatalogRuntime} (same : Untouched r after) : CommitView r after
  | extracted {after : CatalogRuntime} (added : Extracted r after completion) : CommitView r after
  | committed {after : CatalogRuntime} (present : r.completions[index]? = some completion)
      (move : CommitMove r index completion after) : CommitView r after
  | arrived : CommitView r {r with authentications := r.authentications ++ [.arrived]}
  | authenticated {after : CatalogRuntime} (present : r.authentications[index]? = some stage)
      (move : AuthMove r index stage after) : CommitView r after

theorem runtimeStep_view (step : runtimeStep r action = some next) : CommitView r next := by
  cases action with
  | requestServer key now room =>
    cases step
    unfold requestServerCatalog
    split
    · exact .untouched .refl
    · exact .untouched requestCatalog_untouched
  | reconcile now room => cases step; exact .untouched requestCatalog_untouched
  | resend key now room => cases step; exact .untouched sendCatalogPage_untouched
  | connected =>
    cases step
    have online : Untouched r {r with supervisorOnline := true} := ⟨rfl,rfl,rfl,rfl,rfl⟩
    exact .untouched (online.trans rotate_untouched)
  | disconnected =>
    cases step
    have offline : Untouched r {r with supervisorOnline := false} := ⟨rfl,rfl,rfl,rfl,rfl⟩
    exact .untouched (offline.trans rotate_untouched)
  | drawId | aliveChanged => cases step; exact .untouched ⟨rfl,rfl,rfl,rfl,rfl⟩
  | commit index derived accepted now room =>
    obtain ⟨_,present,move⟩ := commitStep_move step
    exact .committed present move
  | authenticate => cases step; exact .arrived
  | authentication index now room =>
    obtain ⟨_,present,move⟩ := authStep_move step
    exact .authenticated present move

end Frame

inductive SystemMove (codec : DeviceCodec) (s : CatalogSystem) : CatalogSystem → Prop where
  | sessiond (action : SessionsAction) : SystemMove codec s {s with sessions := sessionsStep codec s.sessions action}
  | page (sent : (internalChannelId,.sessionCatalog catalog) ∈ s.sessions.outbound) :
      SystemMove codec s {s with runtime := s.runtime.handleCatalogPage codec catalog now room}
  | error : SystemMove codec s {s with runtime := s.runtime.catalogError requestId}
  | runtime (stepped : runtimeStep s.runtime action = some after) : SystemMove codec s {s with runtime := after}

theorem catalogStep_move (step : catalogStep codec s action = some next) : SystemMove codec s next := by
  cases action with
  | sessiond action => cases step; exact .sessiond action
  | deliverRequest index reading room =>
    simp only [catalogStep,Option.bind_eq_bind,Option.bind_eq_some_iff] at step
    obtain ⟨_,_,⟨⟩⟩ := step
    exact .sessiond _
  | deliverAnswer index now room =>
    simp only [catalogStep,Option.bind_eq_bind,Option.bind_eq_some_iff] at step
    obtain ⟨⟨_,_⟩,sent,step⟩ := step
    have mem := List.mem_of_getElem? sent
    simp only at step
    split at step
    · rename_i internal
      split at step
      · cases step
        exact .page (internal ▸ mem)
      · cases step
        exact .error
    · cases step
  | runtime action =>
    simp only [catalogStep,Option.bind_eq_bind,Option.bind_eq_some_iff] at step
    obtain ⟨_,step,⟨⟩⟩ := step
    exact .runtime step

theorem catalogStep_view (step : catalogStep codec s action = some next) : CommitView s.runtime next.runtime := by
  cases catalogStep_move step with
  | sessiond action => exact .untouched .refl
  | page sent =>
    rcases handleCatalogPage_frame with same | ⟨completion,added⟩
    · exact .untouched same
    · exact .extracted added
  | error => exact .untouched catalogError_untouched
  | runtime moved => exact runtimeStep_view moved

theorem Collects.mono (valid : Collects part whole r) (parts : ∀ n query, part n query → part' n query)
    (wholes : ∀ n query, whole n query → whole' n query) : Collects part' whole' r :=
  ⟨valid.generation,fun key query found => parts _ _ (valid.pending key query found),
    fun completion mem => wholes _ _ (valid.extracted completion mem)⟩

theorem system_collects (part whole : Sessions → Nat → CatalogQuery → Prop)
    (rule : QueryRule (part s.sessions) (whole s.sessions))
    (grows : ∀ catalog, (internalChannelId,.sessionCatalog catalog) ∈ s.sessions.outbound →
      ∀ key query, Taken codec s.runtime key query catalog → part s.sessions s.runtime.changes query →
      catalog.complete = false → CatalogQuery.legacyPage catalog = false →
      part s.sessions s.runtime.changes (query.extended codec catalog))
    (ends : ∀ catalog, (internalChannelId,.sessionCatalog catalog) ∈ s.sessions.outbound →
      ∀ key query, Taken codec s.runtime key query catalog → part s.sessions s.runtime.changes query →
      CatalogQuery.legacyPage catalog = true ∨ catalog.complete = true →
      whole s.sessions s.runtime.changes (query.extended codec catalog))
    (parts : ∀ action n query, part s.sessions n query → part (sessionsStep codec s.sessions action) n query)
    (wholes : ∀ action n query, whole s.sessions n query → whole (sessionsStep codec s.sessions action) n query)
    (valid : Collects (part s.sessions) (whole s.sessions) s.runtime) (move : SystemMove codec s next) :
    Collects (part next.sessions) (whole next.sessions) next.runtime := by
  cases move with
  | sessiond action => exact valid.mono (parts _) (wholes _)
  | page sent => exact handleCatalogPage_collects rule valid (grows _ sent) (ends _ sent)
  | error => exact catalogError_collects rule valid
  | runtime step => exact runtimeStep_collects rule valid step

theorem not_legacyPage (valid : SessionsInvariant s)
    (sent : (channelId,.sessionCatalog catalog) ∈ s.outbound) : CatalogQuery.legacyPage catalog = false := by
  have named : catalog.snapshotOwnerId ≠ "" := valid.owners _ _ sent ▸ s.owned
  simp [CatalogQuery.legacyPage,named]

theorem extended_stamp {query : CatalogQuery} (current : CatalogQuery.legacyPage catalog = false) (matched : query.epochMatches catalog = true) :
    (query.extended codec catalog).snapshotOwnerId = catalog.snapshotOwnerId ∧
    (query.extended codec catalog).snapshotEpoch = catalog.snapshotEpoch := by
  by_cases first : query.snapshotOwnerId = ""
  · simp [CatalogQuery.extended,current,first]
  · simpa [CatalogQuery.extended,CatalogQuery.epochMatches,current,first] using matched

end Coflux.Runtime
