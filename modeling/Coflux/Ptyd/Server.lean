import Coflux.Ptyd.Subscription

namespace Coflux.Ptyd
open FiniteMap StepMachine Json Framing

inductive PtydRequest where
  | «open» (sessionId : String) (rows cols : UInt16) (label : String)
  | spawn (sessionId : String) (argv : List String) (env : List (String × String)) (cwd : String)
  | list
  | subscribe (sessionId : String) (fromOffset : UInt64)
  | read (sessionId : String) (fromOffset : UInt64) (maxBytes : UInt32)
  | write (sessionId clientInstanceId : String) (inputSeq : UInt64)
  | resize (sessionId : String) (rows cols : UInt16)
  | checkpoint (sessionId : String) (offset : UInt64)
  | blob (sessionId : String)
  | resizes (sessionId : String)
  | cursors (sessionId : String)
  | kill (sessionId : String)
  | remove (sessionId : String)
  | status
  | shutdown (instanceId : String)

def opName : PtydRequest → String
  | .«open» _ _ _ _ => "open"
  | .spawn _ _ _ _ => "spawn"
  | .list => "list"
  | .subscribe _ _ => "subscribe"
  | .read _ _ _ => "read"
  | .write _ _ _ => "write"
  | .resize _ _ _ => "resize"
  | .checkpoint _ _ => "checkpoint"
  | .blob _ => "blob"
  | .resizes _ => "resizes"
  | .cursors _ => "cursors"
  | .kill _ => "kill"
  | .remove _ => "remove"
  | .status => "status"
  | .shutdown _ => "shutdown"

def ptydV1Ops : List String :=
  ["open","spawn","list","subscribe","read","write","resize","checkpoint","blob","resizes","cursors","kill","remove",
    "status","shutdown"]

-- strerror_r fills a buffer of 128 bytes and the error number is added to it.
structure OsError where
  text : String
  short : text.utf8ByteSize ≤ 256

-- What the operating system answers while one request is served.
structure Os where
  openpty : Except OsError PtyPair
  ringFile : Option OsError
  executable : Bool
  fork : Except OsError Int
  resize : Option OsError
  now : Nat

inductive WriteEnd where
  | written
  | failed (written : Nat) (errno : Option Int) (error : OsError)

-- Requests in progress keep the session itself; the serial tells it from a later one of its id.
structure Slot where
  serial : Nat
  inner : SessionInner

structure PendingWrite where
  id : Nat
  sessionId : String
  serial : Nat
  request : WriteRequest

structure Server where
  ops : List String
  (identity instanceId : String)
  pid : Nat
  sessions : Table String Slot
  nextSerial : Nat
  writes : List PendingWrite
  shuttingDown : Bool

def Server.start (ops : List String) (identity instanceId : String) (pid : Nat) : Server :=
  ⟨ops,identity,instanceId,pid,∅,0,[],false⟩

abbrev OpResult := Except OpError (List Outgoing)

def atLeastOne (n : UInt16) : UInt16 := if n < 1 then 1 else n

def hasNul (text : String) : Bool := text.toList.any fun c => c.toNat = 0

def resolveProgram (program : String) (os : Os) : Option String :=
  if program.toList.any (· = '/') then if hasNul program then some "argv[0] 含 NUL" else none
  else if os.executable then none
  else some s!"找不到可执行文件 {program}"

def ptySpawn (argv : List String) (env : List (String × String)) (cwd : String) (os : Os) : Except String Int :=
  match argv with
  | [] => .error "argv 为空"
  | program :: _ =>
    match resolveProgram program os with
    | some message => .error message
    | none =>
      if argv.any hasNul then .error "argv 含 NUL"
      else if env.any fun entry => hasNul entry.1 || hasNul entry.2 then .error "env 含 NUL"
      else if hasNul cwd then .error "cwd 含 NUL"
      else match os.fork with
        | .ok pid => .ok pid
        | .error error => .error error.text

def hexChar (n : Nat) : Char := if n < 10 then Char.ofNat (48 + n) else Char.ofNat (87 + n)

def hexEncode (bytes : Bytes) : String :=
  String.ofList (bytes.flatMap fun byte => [hexChar (byte.toNat / 16),hexChar (byte.toNat % 16)])

namespace SessionInner

section
variable (st : SessionInner)

def info (sessionId : String) : PtydSessionInfo :=
  ⟨sessionId,st.pid.getD (-1),st.file.rows,st.file.cols,st.tty,st.file.label,st.file.start,st.file.end,
    st.file.checkpoint,st.exit,st.startedAtMs⟩

def statusEntry (sessionId : String) : PtydStatusSession :=
  ⟨sessionId,st.pid.getD (-1),st.exit.isSome || st.pid.isNone⟩

def cursorInfos : List PtydCursorInfo :=
  ((entries st.cursors).map fun entry => PtydCursorInfo.mk entry.1 entry.2.seq (hexEncode entry.2.data)).mergeSort
    fun a b => a.clientInstanceId ≤ b.clientInstanceId

def readOutcome (file : SessionFile) (id : Nat) (sessionId : String) (fromOffset : Nat) :
    Option (Nat × Bytes) → OpResult
  | some (offset,data) => .ok [⟨.data id sessionId offset,data⟩]
  | none =>
    if fromOffset > file.end then .error ⟨"offset_ahead",s!"偏移 {fromOffset} 超过当前输出末尾 {file.end}"⟩
    else .error ⟨"offset_evicted",s!"偏移 {fromOffset} 早于 ring 起点 {file.start}"⟩

def readReply (id : Nat) (sessionId : String) (fromOffset limit : Nat) : OpResult :=
  readOutcome st.file id sessionId fromOffset (st.file.read fromOffset limit)

end

end SessionInner

namespace Server

section
variable (server : Server)

def session (sessionId : String) : Except OpError Slot :=
  match server.sessions.lookup sessionId with
  | some slot => .ok slot
  | none => .error ⟨"session_not_found",s!"session {sessionId} 不存在"⟩

def withSession (sessionId : String) (critical : SessionInner → OpResult × SessionInner) :
    OpResult × Server :=
  match server.session sessionId with
  | .error error => (.error error,server)
  | .ok slot =>
    let done := critical slot.inner
    (done.1,{server with sessions := server.sessions.insert sessionId {slot with inner := done.2}})

def «open» (id : Nat) (sessionId : String) (rows cols : UInt16) (label : String) (os : Os) :
    OpResult × Server :=
  if sessionId.isEmpty then (.error ⟨"invalid_session_id","session id 为空"⟩,server)
  else if (server.sessions.lookup sessionId).isSome then (.error ⟨"duplicate_session","session id 已存在"⟩,server)
  else if size server.sessions ≥ ptydMaxLiveSessions then
    (.error ⟨"session_limit",s!"存活 session 已达上限 {ptydMaxLiveSessions}"⟩,server)
  else match os.openpty with
    | .error error => (.error ⟨"openpty",error.text⟩,server)
    | .ok pair =>
      match SessionFile.create (atLeastOne rows) (atLeastOne cols) label,os.ringFile with
      | .error message,_ => (.error ⟨"ring_file",message⟩,server)
      | .ok _,some error => (.error ⟨"ring_file",error.text⟩,server)
      | .ok file,none =>
        let slot : Slot := ⟨server.nextSerial,.opened file pair os.now⟩
        (.ok [⟨.opened id pair.tty,[]⟩],
          {server with sessions := server.sessions.insert sessionId slot,nextSerial := server.nextSerial + 1})

def spawn (id : Nat) (sessionId : String) (argv : List String) (env : List (String × String))
    (cwd : String) (os : Os) : OpResult × Server :=
  server.withSession sessionId fun st =>
    if st.pid.isSome then (.error ⟨"already_spawned","session 已 spawn"⟩,st)
    else if st.slave.isNone then (.error ⟨"not_open","session 没有可用的 PTY"⟩,st)
    else match ptySpawn argv env cwd os with
      | .error message => (.error ⟨"spawn",message⟩,st)
      | .ok pid => (.ok [⟨.spawned id pid,[]⟩],st.spawned pid os.now)

-- list and status lock the sessions one after another; each entry is read in one state here.
def list (id : Nat) : OpResult × Server :=
  let infos := (entries server.sessions).map fun entry => entry.2.inner.info entry.1
  (.ok [⟨.sessions id (infos.mergeSort fun a b => a.sessionId ≤ b.sessionId),[]⟩],server)

def status (id : Nat) : OpResult × Server :=
  let listed := (entries server.sessions).map fun entry => entry.2.inner.statusEntry entry.1
  (.ok [⟨.status id ptydProtocolVersion server.identity server.instanceId server.pid
    (listed.mergeSort fun a b => a.sessionId ≤ b.sessionId),[]⟩],server)

def subscribe (id connection : Nat) (sessionId : String) (fromOffset : Nat) : OpResult × Server :=
  server.withSession sessionId fun st =>
    match st.file.checkOffset fromOffset with
    | some error => (.error error,st)
    | none =>
      let all := (st.subscribeSends id sessionId fromOffset).length
      let sent := st.subscribe sessionId ⟨id,connection,0⟩ fromOffset all
      (.ok sent.1,sent.2)

section
variable (id : Nat) (sessionId : String)

def read (fromOffset maxBytes : Nat) : OpResult × Server :=
  let limit := min maxBytes ptydMaxReadBytes
  server.withSession sessionId fun st => (st.readReply id sessionId fromOffset limit,st)

def write (request : WriteRequest) : OpResult × Server :=
  match admitWrite request with
  | some error => (.error error,server)
  | none =>
    match server.session sessionId with
    | .error error => (.error error,server)
    | .ok slot =>
      match slot.inner.checkWrite request with
      | .refuse error => (.error error,server)
      | .duplicate appliedThroughSeq => (.ok [⟨.written id appliedThroughSeq true,[]⟩],server)
      | .proceed _ => (.ok [],{server with writes := server.writes ++ [⟨id,sessionId,slot.serial,request⟩]})

def resize (rows cols : UInt16) (os : Os) : OpResult × Server :=
  server.withSession sessionId fun st =>
    match (if st.master.isSome ∧ st.exit = none then os.resize else none) with
    | some error => (.error ⟨"resize",error.text⟩,st)
    | none => (.ok [⟨.ok id,[]⟩],st.resized (atLeastOne rows) (atLeastOne cols))

def checkpoint (offset : Nat) (blob : Bytes) : OpResult × Server :=
  server.withSession sessionId fun st =>
    match (st.file.setCheckpoint offset blob).1 with
    | .error message => (.error ⟨"checkpoint_rejected",message⟩,st)
    | .ok () => (.ok [⟨.ok id,[]⟩],st.checkpointed offset blob)

def blob : OpResult × Server :=
  server.withSession sessionId fun st =>
    match st.file.blob with
    | some (offset,blob) => (.ok [⟨.blobData id true offset,blob⟩],st)
    | none => (.ok [⟨.blobData id false 0,[]⟩],st)

def resizes : OpResult × Server :=
  server.withSession sessionId fun st => (.ok [⟨.resizeLog id st.file.resizes,[]⟩],st)

def cursors : OpResult × Server :=
  server.withSession sessionId fun st => (.ok [⟨.cursorList id st.cursorInfos,[]⟩],st)

def kill : OpResult × Server :=
  server.withSession sessionId fun st => (.ok [⟨.ok id,[]⟩],st.kill)

def remove : OpResult × Server :=
  match server.session sessionId with
  | .error error => (.error error,server)
  | .ok slot =>
    if slot.inner.pid.isSome ∧ slot.inner.exit = none then
      (.error ⟨"session_running","session 仍在运行，先 kill"⟩,server)
    else (.ok [⟨.ok id,[]⟩],{server with sessions := server.sessions.erase sessionId})

end

def shutdown (id : Nat) (instanceId : String) : OpResult × Server :=
  if instanceId ≠ server.instanceId then (.error ⟨"stale_instance","instance id 不匹配"⟩,server)
  else (.ok [⟨.ok id,[]⟩],{server with shuttingDown := true})

def perform (connection id : Nat) (request : PtydRequest) (data : Bytes) (os : Os) :
    OpResult × Server :=
  match request with
  | .«open» sessionId rows cols label => server.open id sessionId rows cols label os
  | .spawn sessionId argv env cwd => server.spawn id sessionId argv env cwd os
  | .list => server.list id
  | .subscribe sessionId fromOffset => server.subscribe id connection sessionId fromOffset.toNat
  | .read sessionId fromOffset maxBytes => server.read id sessionId fromOffset.toNat maxBytes.toNat
  | .write sessionId clientInstanceId inputSeq =>
    server.write id sessionId ⟨clientInstanceId,inputSeq.toNat,data⟩
  | .resize sessionId rows cols => server.resize id sessionId rows cols os
  | .checkpoint sessionId offset => server.checkpoint id sessionId offset.toNat data
  | .blob sessionId => server.blob id sessionId
  | .resizes sessionId => server.resizes id sessionId
  | .cursors sessionId => server.cursors id sessionId
  | .kill sessionId => server.kill id sessionId
  | .remove sessionId => server.remove id sessionId
  | .status => server.status id
  | .shutdown instanceId => server.shutdown id instanceId

end

end Server

def refusal (id : Nat) (error : OpError) : Outgoing := ⟨.error id error.code error.message,[]⟩

def responses (id : Nat) : OpResult → List Outgoing
  | .ok outs => outs
  | .error error => [refusal id error]

-- An envelope, or an error with the id serde still finds in the header (0 if none).
inductive ParsedHeader where
  | envelope (id : Nat) (request : PtydRequest)
  | malformed (id : Nat) (error : String)

namespace Server

def serve (server : Server) (connection id : Nat) (request : PtydRequest) (data : Bytes) (os : Os) :
    List Outgoing × Server :=
  if opName request ∈ server.ops then
    let done := server.perform connection id request data os
    (responses id done.1,done.2)
  else ([refusal id ⟨"unknown_op",s!"本 ptyd 不提供 {opName request}"⟩],server)

def dispatch (parse : Bytes → ParsedHeader) (server : Server) (connection : Nat) (payload : Bytes) (os : Os) :
    List Outgoing × Server :=
  match splitPtydPayload payload with
  | none => ([refusal 0 ⟨"bad_request","record 缺少 header"⟩],server)
  | some (header,data) =>
    match parse header with
    | .malformed id error =>
      let code := if (error.splitOn "unknown variant").length > 1 then "unknown_op" else "bad_request"
      ([refusal id ⟨code,error⟩],server)
    | .envelope id request => server.serve connection id request data os

end Server

namespace Server

def commitPending (server : Server) (pending : PendingWrite) : Server :=
  match server.sessions.lookup pending.sessionId with
  | some slot =>
    let committed : Slot := {slot with inner := slot.inner.commitWrite pending.request}
    if slot.serial = pending.serial then
      {server with sessions := server.sessions.insert pending.sessionId committed}
    else server
  | none => server

def finishWrite (server : Server) (index : Nat) (ending : WriteEnd) : Option (Outgoing × Server) :=
  match server.writes[index]? with
  | none => none
  | some pending =>
    let rest := {server with writes := server.writes.eraseIdx index}
    match ending with
    | .written => some (⟨.written pending.id pending.request.inputSeq false,[]⟩,rest.commitPending pending)
    | .failed written errno error =>
      if written < pending.request.data.length then
        some (refusal pending.id (writeFailure pending.request written errno error.text),rest)
      else none

def updateSession (server : Server) (sessionId : String) (change : SessionInner → SessionInner) : Server :=
  match server.sessions.lookup sessionId with
  | some slot => {server with sessions := server.sessions.insert sessionId {slot with inner := change slot.inner}}
  | none => server

end Server

-- The output offset is a u64 that no run exhausts.
inductive ServerAction where
  | request (connection id : Nat) (request : PtydRequest) (data : Bytes) (os : Os)
  | finishWrite (index : Nat) (ending : WriteEnd)
  | appended (sessionId : String) (pending : Bytes)
  | exited (sessionId : String) (exitCode : Int)
  | connectionLost (connection : Nat)

def serverStep (server : Server) : ServerAction → Option Server
  | .request connection id request data os => some (server.serve connection id request data os).2
  | .finishWrite index ending => (server.finishWrite index ending).map Prod.snd
  | .appended sessionId pending =>
    match server.sessions.lookup sessionId with
    | some slot =>
      if slot.inner.file.end + pending.length < 2 ^ 64 then
        some (server.updateSession sessionId fun st => st.taken pending)
      else none
    | none => none
  | .exited sessionId exitCode => some (server.updateSession sessionId fun st => st.exited exitCode)
  | .connectionLost connection =>
    let dropped := fun (_ : String) (slot : Slot) => {slot with inner := slot.inner.dropSubscriptionsOf connection}
    some {server with sessions := mapValues dropped server.sessions}

def serverMachine : Machine Server ServerAction := ⟨serverStep⟩

-- The bounds on a session's data that keep replies about it small.
structure SessionSmall (st : SessionInner) : Prop where
  resizes : st.file.resizes.length ≤ ptydResizeLogEntries
  blob : st.file.checkpointBlob.length ≤ ptydBlobCapacity
  offset : st.file.end < 2 ^ 64
  seqs : ∀ client cursor, st.cursors.lookup client = some cursor → cursor.seq < 2 ^ 64

structure ServerSmall (server : Server) : Prop where
  sessions : ∀ sessionId slot, server.sessions.lookup sessionId = some slot → SessionSmall slot.inner
  writes : ∀ pending ∈ server.writes, pending.request.inputSeq < 2 ^ 64 ∧
    pending.request.data.length ≤ ptydMaxInputBytes

variable {server : Server} {sessionId : String} {st : SessionInner}

theorem insert_small (small : ServerSmall server) (good : SessionSmall slot.inner) :
    ServerSmall {server with sessions := server.sessions.insert sessionId slot} :=
  ⟨Each.insert small.sessions good,small.writes⟩

theorem withSession_small (small : ServerSmall server) (keeps : ∀ st, SessionSmall st → SessionSmall (critical st).2) :
    ServerSmall (server.withSession sessionId critical).2 := by
  unfold Server.withSession Server.session
  cases found : server.sessions.lookup sessionId with
  | none => exact small
  | some slot => exact insert_small small (keeps _ (small.sessions _ _ found))

theorem resized_small (small : SessionSmall st) : SessionSmall (st.resized rows cols) := by
  have bound := small.resizes
  have positive := ptydResizeLogEntries_pos
  refine {small with resizes := ?_}
  simp only [SessionInner.resized,SessionFile.pushResize]
  split
  · simp only [List.length_append,List.length_drop,List.length_singleton]
    omega
  · simp only [List.length_append,List.length_singleton]
    omega

theorem checkpointed_small (small : SessionSmall st) : SessionSmall (st.checkpointed offset blob) := by
  unfold SessionInner.checkpointed
  rcases setCheckpoint_cases st.file offset blob with ⟨_,refused,_⟩ | ⟨stored,fits,_,_⟩
  · rw [refused]
    exact {small with}
  · rw [stored]
    exact {small with blob := fits}

theorem opened_small (created : SessionFile.create rows cols label = .ok file) (pair : PtyPair) (now : Nat) :
    SessionSmall (.opened file pair now) := by
  unfold SessionFile.create at created
  split at created
  · cases created
  · cases created
    exact ⟨Nat.zero_le _,Nat.zero_le _,Nat.two_pow_pos 64,fun _ _ found => nomatch found⟩

theorem open_small (small : ServerSmall server) : ServerSmall (server.open requestId sessionId rows cols label os).2 := by
  unfold Server.open
  split
  · exact small
  split
  · exact small
  split
  · exact small
  split
  · exact small
  · split
    · exact small
    · exact small
    · rename_i pair _ _ _ _ created _
      have stored : ServerSmall {server with sessions := server.sessions.insert sessionId ⟨server.nextSerial,_⟩} :=
        insert_small small (opened_small created pair os.now)
      exact {stored with}

theorem admitWrite_none (admitted : admitWrite request = none) : request.data.length ≤ ptydMaxInputBytes := by
  unfold admitWrite at admitted
  split at admitted
  · cases admitted
  · rename_i fits
    exact Nat.le_of_not_lt fits

theorem write_small (small : ServerSmall server) (bounded : request.inputSeq < 2 ^ 64) :
    ServerSmall (server.write requestId sessionId request).2 := by
  unfold Server.write
  split
  · exact small
  · rename_i admitted
    split
    · exact small
    · split
      · exact small
      · exact small
      · refine ⟨small.sessions,?_⟩
        intro pending mem
        rcases List.mem_append.mp mem with old | new
        · exact small.writes _ old
        · rw [List.mem_singleton.mp new]
          exact ⟨bounded,admitWrite_none admitted⟩

theorem perform_small (small : ServerSmall server) {connection id : Nat} :
    ServerSmall (server.perform connection id request data os).2 := by
  cases request with
  | «open» sessionId rows cols label => exact open_small small
  | spawn sessionId argv env cwd =>
    refine withSession_small small ?_
    intro st good
    split
    · exact good
    split
    · exact good
    split
    · exact good
    · exact {good with}
  | list | status => exact small
  | subscribe sessionId fromOffset =>
    refine withSession_small small ?_
    intro st good
    split
    · exact good
    · simp only [SessionInner.subscribe]
      split
      · exact {good with}
      · exact good
  | read sessionId fromOffset maxBytes =>
    unfold Server.perform Server.read
    refine withSession_small small ?_
    intro st good
    exact good
  | write sessionId clientInstanceId inputSeq => exact write_small small inputSeq.toNat_lt
  | resize sessionId rows cols =>
    refine withSession_small small ?_
    intro st good
    split
    · exact good
    · exact resized_small good
  | checkpoint sessionId offset =>
    refine withSession_small small ?_
    intro st good
    split
    · exact good
    · exact checkpointed_small good
  | blob sessionId =>
    refine withSession_small small ?_
    intro st good
    split <;> exact good
  | resizes | cursors => exact withSession_small small fun _ good => good
  | kill sessionId =>
    exact withSession_small small fun _ good => {good with}
  | remove sessionId =>
    simp only [Server.perform,Server.remove]
    split
    · exact small
    · split
      · exact small
      · exact ⟨Each.erase small.sessions,small.writes⟩
  | shutdown instanceId =>
    simp only [Server.perform,Server.shutdown]
    split
    · exact small
    · exact {small with}

theorem updateSession_small (small : ServerSmall server)
    (keeps : ∀ slot, server.sessions.lookup sessionId = some slot → SessionSmall (change slot.inner)) :
    ServerSmall (server.updateSession sessionId change) := by
  unfold Server.updateSession
  split
  · rename_i found
    exact insert_small small (keeps _ found)
  · exact small

theorem commitWrite_small (small : SessionSmall st) (bounded : request.inputSeq < 2 ^ 64) :
    SessionSmall (st.commitWrite request) :=
  {small with seqs := Each.insert small.seqs bounded}

theorem finishWrite_small (small : ServerSmall server) (finished : server.finishWrite index ending = some (reply,next)) :
    ServerSmall next := by
  unfold Server.finishWrite at finished
  split at finished
  · cases finished
  · rename_i found
    have bounded := (small.writes _ (List.mem_of_getElem? found)).1
    have rest : ServerSmall {server with writes := server.writes.eraseIdx index} :=
      ⟨small.sessions,fun _ mem => small.writes _ (List.mem_of_mem_eraseIdx mem)⟩
    simp only at finished
    split at finished
    · cases finished
      unfold Server.commitPending
      split
      · rename_i present
        simp only
        split
        · exact insert_small rest (commitWrite_small (small.sessions _ _ present) bounded)
        · exact rest
      · exact rest
    · split at finished
      · cases finished
        exact rest
      · cases finished

theorem serverStep_small (server : Server) (action : ServerAction) {next : Server} (small : ServerSmall server)
    (step : serverStep server action = some next) : ServerSmall next := by
  cases action with
  | request connection id request data os =>
    cases step
    unfold Server.serve
    split
    · exact perform_small small
    · exact small
  | finishWrite index ending =>
    obtain ⟨⟨_,_⟩,finished,rfl⟩ := Option.map_eq_some_iff.mp step
    exact finishWrite_small small finished
  | appended sessionId pending =>
    simp only [serverStep] at step
    split at step
    · rename_i slot found
      obtain ⟨_,rfl⟩ := guard_parts step
      refine updateSession_small small ?_
      intro known present
      rw [found] at present
      cases present
      have good := small.sessions _ _ found
      refine {good with offset := ?_}
      have cut := List.length_take_le' slot.inner.file.writeBudget pending
      simp only [SessionInner.taken,append_end]
      omega
    · cases step
  | exited sessionId exitCode =>
    cases step
    refine updateSession_small small ?_
    intro slot present
    have good := small.sessions _ _ present
    exact {good with}
  | connectionLost connection =>
    cases step
    refine ⟨?_,small.writes⟩
    intro sessionId slot present
    simp only [lookup_mapValues,Option.map_eq_some_iff] at present
    obtain ⟨before,found,rfl⟩ := present
    have good := small.sessions _ _ found
    obtain ⟨file,_⟩ := dropSubscriptionsOf_rest before.inner
    refine ⟨file ▸ good.resizes,file ▸ good.blob,file ▸ good.offset,?_⟩
    have cursors : (before.inner.dropSubscriptionsOf connection).cursors = before.inner.cursors :=
      lifecycle_cursors (.dropSubscriptionsOf connection)
    rw [cursors]
    exact good.seqs

theorem start_small (ops : List String) (identity : String) : ServerSmall (.start ops identity instanceId pid) := by
  refine ⟨?_,?_⟩
  · intro sessionId slot found
    cases found
  · intro pending mem
    cases mem

end Coflux.Ptyd
