import Coflux.Device.Calls
import Coflux.Sessiond.Operations

namespace Coflux.Device
open FiniteMap StepMachine Sessiond Text Eviction

-- Operations prepared by the center: templates are installed, then the center or a client executes
-- them. The worker runs most of them itself, sessions are created by sessiond. Outcomes are
-- reported to the center, and the reports are kept for some time.

def executedOperationLimit : Nat := 4096
def preparedLimit : Nat := 1024
def preparedBytes : Nat := 32 * 1024 * 1024
def maxPreparedFrameBytes : Nat := 1024 * 1024
def operationReportBytes : Nat := 64 * 1024 * 1024
def maxFrameIdBytes : Nat := 255
def serverChannelPrefix : String := "__coflux-server-"

def validId (value : String) : Bool :=
  value ≠ "" && value.utf8ByteSize ≤ maxFrameIdBytes && !value.toList.any fun c => c.toNat < 32 || c.toNat = 127

inductive PreparedPayload where
  | sessionCreate (request : DeviceSessionCreate)
  | projectValidate (requestId operationId path : String)
  | worktreeAdd (requestId operationId repoPath workspaceId branch : String) (createNew : Bool)
  | worktreeRemove (operationId repoPath worktreePath : String)
deriving DecidableEq

namespace PreparedPayload

def operationId : PreparedPayload → String
  | .sessionCreate request => request.operationId
  | .projectValidate _ operationId _ => operationId
  | .worktreeAdd _ operationId _ _ _ _ => operationId
  | .worktreeRemove operationId _ _ => operationId

def requestId : PreparedPayload → Option String
  | .sessionCreate request => some request.requestId
  | .projectValidate requestId _ _ => some requestId
  | .worktreeAdd requestId _ _ _ _ _ => some requestId
  | .worktreeRemove _ _ _ => none

end PreparedPayload

structure PreparedRecord where
  daemonId : String
  frame : PreparedPayload
  expiresAt : Nat

inductive Outcome where
  | result (payload : ResultPayload)
  | ack (ack : DeviceOperationAck)
deriving DecidableEq

-- Reports carry no request id.
def Outcome.anonymous : Outcome → Outcome
  | .result payload => .result (setResponseRequestId payload "")
  | .ack answer => .ack {answer with requestId := ""}

structure PreparedSizes where
  ledger : LedgerSizes
  operations : OperationLimits
  frameLength : PreparedPayload → Nat
  fingerprint : PreparedPayload → Bytes
  reportLength : String → Outcome → Nat

inductive Origin where
  | server (operationId : String)
  | client (channelId : String)

def Origin.channelId : Origin → String
  | .server operationId => serverChannelPrefix ++ operationId
  | .client channelId => channelId

-- running are the worker's tasks, toSessiond and fromSessiond the frames under way. The last four
-- fields are history: executions, outcomes, reports queued, and executions after the end without a
-- report.
structure PreparedState where
  daemonId : Option String
  prepared : Table String PreparedRecord
  executed : List String
  operations : CallLedger
  running : List String
  reports : Table String Outcome
  toSessiond : List (Origin × DeviceSessionCreate)
  sessiond : OperationLedger
  fromSessiond : List (Origin × OperationReply)
  effects : List String
  finished : Table String Outcome
  sent : List (String × Outcome)
  silent : List String

namespace PreparedState
variable (sizes : PreparedSizes)

def start : PreparedState where
  daemonId := none
  prepared := ∅
  executed := []
  operations := .start
  running := []
  reports := ∅
  toSessiond := []
  sessiond := .start
  fromSessiond := []
  effects := []
  finished := ∅
  sent := []
  silent := []

section
variable (s : PreparedState)

def unexpired (now : Nat) : PreparedState :=
  {s with prepared := keep (fun _ record => record.expiresAt > now) s.prepared}

-- validate_and_install_prepared, with the frame already decoded.
def install (operationId daemonId : String) (frame : PreparedPayload) (expiresAt now : Nat) : PreparedState :=
  if !validId operationId || !validId daemonId then s
  else if expiresAt ≤ now then s
  else if s.daemonId ≠ some daemonId then s
  else if sizes.frameLength frame > maxPreparedFrameBytes then s
  else if frame.operationId ≠ operationId then s
  else
    let s := s.unexpired now
    if (s.prepared.lookup operationId).any fun existing => existing.daemonId ≠ daemonId || existing.frame ≠ frame then s
    else if operationId ∉ s.prepared ∧ size s.prepared ≥ preparedLimit then s
    else if sizes.frameLength frame >
        preparedBytes - weigh (fun _ record => sizes.frameLength record.frame) (s.prepared.erase operationId) then s
    else {s with prepared := s.prepared.insert operationId ⟨daemonId,frame,expiresAt⟩}

section
variable (room : Bool) (operationId : String) (outcome : Outcome)

def sendReport : PreparedState :=
  if room then {s with sent := s.sent ++ [(operationId,outcome)]} else s

def popFirstReport (reports : Table String Outcome) : Option (Table String Outcome) :=
  if size reports = 0 then none else some (popFirst reports)

def reportOperation : PreparedState :=
  if s.daemonId = none then s
  else
    let length := sizes.reportLength operationId outcome.anonymous
    let crowded := fun reports => length > operationReportBytes - weigh sizes.reportLength reports
    let rest := s.reports.erase operationId
    let rest := evictWhile (fun reports => size reports ≥ callLedgerLimit || crowded reports) popFirstReport (size rest) rest
    if crowded rest then {s with reports := rest}.sendReport room operationId outcome.anonymous
    else
      let rest := if size rest ≥ callLedgerLimit then popFirst rest else rest
      {s with reports := rest.insert operationId outcome.anonymous}.sendReport room operationId outcome.anonymous

def finish : PreparedState :=
  {s with finished := s.finished.insert operationId outcome.anonymous}.reportOperation sizes room operationId outcome

end

def dispatchWorkerRequest (rank : String → Nat) (channelId operationId requestId : String)
    (fingerprint : Bytes) : PreparedState :=
  if !validId operationId || requestId = "" then s
  else
    match s.operations.startCall sizes.ledger rank operationId fingerprint ⟨channelId,requestId⟩ with
    | (.ok .execute,ledger) =>
      {s with operations := ledger,running := s.running ++ [operationId],effects := s.effects ++ [operationId]}
    | (_,ledger) => {s with operations := ledger}

def dispatchPrepared (rank : String → Nat) (origin : Origin) (payload : PreparedPayload) : PreparedState :=
  s.dispatchWorkerRequest sizes rank origin.channelId payload.operationId (payload.requestId.getD payload.operationId)
    (sizes.fingerprint payload)

def mark (operationId : String) : PreparedState :=
  {s with executed := if s.executed.length ≥ executedOperationLimit then [operationId] else s.executed ++ [operationId]}

def fail (room : Bool) (operationId code message : String) : PreparedState :=
  {s with executed := s.executed.erase operationId}.reportOperation sizes room operationId (.result (.error none code message))

section
variable (operationId : String) (now : Nat) (rank : String → Nat) (supervisorRoom serverRoom : Bool)

-- The part of execute_prepared_operation after the operation has been marked.
def executeMarked :
    PreparedState :=
  if (serverChannelPrefix ++ operationId).utf8ByteSize > maxFrameIdBytes then
    s.fail sizes serverRoom operationId "invalid_operation_id" "operationId 过长，无法派生合成 channel"
  else
    let s := s.unexpired now
    match s.prepared.lookup operationId with
    | none => s.fail sizes serverRoom operationId "prepared_operation_denied" "operation 未由中心 prepare 或已过期"
    | some record =>
      if s.daemonId ≠ some record.daemonId then
        s.fail sizes serverRoom operationId "prepared_operation_denied" "operation payload 与中心安装模板不一致"
      else
        match record.frame with
        | .sessionCreate request =>
          if supervisorRoom then {s with toSessiond := s.toSessiond ++ [(.server operationId,request)]}
          else s.fail sizes serverRoom operationId "supervisor_busy" "sessiond 请求队列已满，请重试"
        | payload => s.dispatchPrepared sizes rank (.server operationId) payload

def executePreparedOperation : PreparedState :=
  match s.reports.lookup operationId with
  | some report => s.sendReport serverRoom operationId report
  | none =>
    if operationId ∈ s.executed then s
    else (s.mark operationId).executeMarked sizes operationId now rank supervisorRoom serverRoom

end

-- A prepared operation from a client: handle_client_frame behind its scope checks.
def authorizePrepared (payload : PreparedPayload) : Bool :=
  !(payload.requestId.any fun requestId => !validId requestId) && payload.operationId ≠ "" &&
    (s.prepared.lookup payload.operationId).any fun record => s.daemonId = some record.daemonId && record.frame = payload

def executeForClient (channelId : String) (payload : PreparedPayload) (rank : String → Nat)
    (supervisorRoom : Bool) : PreparedState :=
  match payload with
  | .sessionCreate request =>
    if supervisorRoom then {s with toSessiond := s.toSessiond ++ [(.client channelId,request)]} else s
  | payload => s.dispatchPrepared sizes rank (.client channelId) payload

def finishCall (rank : String → Nat) (operationId : String) (result : ResultPayload) (room : Bool) :
    PreparedState :=
  let result := boundedResult sizes.ledger result
  let ledger := (s.operations.finishCallInLedger sizes.ledger rank operationId result).2
  {s with operations := ledger,running := s.running.erase operationId}.finish sizes room operationId (.result result)

def receive (origin : Origin) (reply : OperationReply) (room : Bool) : PreparedState :=
  match origin,reply with
  | _,.ack ack => if ack.operationId = "" then s else s.finish sizes room ack.operationId (.ack ack)
  | .server operationId,.error requestId code message =>
    s.finish sizes room operationId (.result (.error (some requestId) code message))
  | .client _,.error _ _ _ => s

end

def witnessed (before after : PreparedState) (operationId : String) : PreparedState :=
  match before.finished.lookup operationId with
  | none => after
  | some outcome =>
    if after.sent = before.sent ++ [(operationId,outcome)] ∨ before.toSessiond.length < after.toSessiond.length then after
    else {after with silent := after.silent ++ [operationId]}

end PreparedState

open PreparedState (fail popFirstReport reportOperation sendReport witnessed)

inductive PreparedAction where
  | setDaemonId (daemonId : Option String)
  | install (operationId daemonId : String) (frame : PreparedPayload) (expiresAt now : Nat)
  | serverExecute (operationId : String) (now : Nat) (rank : String → Nat) (supervisorRoom serverRoom : Bool)
  | clientExecute (channelId : String) (payload : PreparedPayload) (now : Nat) (rank : String → Nat) (supervisorRoom : Bool)
  | clientCall (channelId operationId requestId : String) (fingerprint : Bytes) (rank : String → Nat)
  | finish (operationId : String) (result : ResultPayload) (rank : String → Nat) (room : Bool)
  | sessiondCreate (created : Except String Int) (weight : Nat) (delivered : Bool)
  | sessiondStop (channelId : String) (request : DeviceSessionStop) (outcome : StopOutcome) (weight : Nat) (delivered : Bool)
  | receive (room : Bool)
  | serverAuthenticated

def preparedStep (sizes : PreparedSizes) (s : PreparedState) : PreparedAction → Option PreparedState
  | .setDaemonId daemonId => some {s with daemonId := daemonId}
  | .install operationId daemonId frame expiresAt now => some (s.install sizes operationId daemonId frame expiresAt now)
  | .serverExecute operationId now rank supervisorRoom serverRoom =>
    if validId operationId then
      some (s.witnessed (s.executePreparedOperation sizes operationId now rank supervisorRoom serverRoom) operationId)
    else some s
  | .clientExecute channelId payload now rank supervisorRoom =>
    let s := s.unexpired now
    if s.authorizePrepared payload then
      some (s.witnessed (s.executeForClient sizes channelId payload rank supervisorRoom) payload.operationId)
    else some s
  | .clientCall channelId operationId requestId fingerprint rank =>
    some (s.dispatchWorkerRequest sizes rank channelId operationId requestId fingerprint)
  | .finish operationId result rank room =>
    if operationId ∈ s.running then some (s.finishCall sizes rank operationId result room) else none
  | .sessiondCreate created weight delivered =>
    match s.toSessiond with
    | [] => none
    | (origin,request) :: rest =>
      let outcome := deviceCreate sizes.operations s.sessiond request created weight
      some {s with
        toSessiond := rest
        sessiond := outcome.ledger
        fromSessiond := if delivered then s.fromSessiond ++ [(origin,outcome.reply)] else s.fromSessiond
        effects := if outcome.executed then s.effects ++ [request.operationId] else s.effects}
  | .sessiondStop channelId request outcome weight delivered =>
    let outcome := deviceStop sizes.operations s.sessiond request outcome weight
    some {s with
      sessiond := outcome.ledger
      fromSessiond := if delivered then s.fromSessiond ++ [(.client channelId,outcome.reply)] else s.fromSessiond}
  | .receive room =>
    match s.fromSessiond with
    | [] => none
    | (origin,reply) :: rest => some ({s with fromSessiond := rest}.receive sizes origin reply room)
  | .serverAuthenticated => some {s with sent := s.sent ++ (entries s.reports).insertionSort fun a b => a.1 ≤ b.1}

def preparedMachine (sizes : PreparedSizes) : Machine PreparedState PreparedAction := ⟨preparedStep sizes⟩

structure Idempotent (s : PreparedState) : Prop where
  once : s.effects.Nodup
  reported : s.silent = []

-- The ledgers still hold what they have executed, the report of a finished operation is kept and
-- fits the queue, a client executes a finished operation only where sessiond is asked, and an
-- outcome comes while the device's id is known.
def Retained (s : PreparedState) : PreparedAction → Prop
  | .serverExecute operationId _ _ _ serverRoom =>
    (operationId ∈ s.finished → operationId ∈ s.reports ∧ serverRoom = true) ∧
    (operationId ∈ s.effects → operationId ∈ s.reports ∨ operationId ∈ s.executed ∨ operationId ∈ s.operations.entries)
  | .clientExecute _ (.sessionCreate request) _ _ supervisorRoom => request.operationId ∈ s.finished → supervisorRoom = true
  | .clientExecute _ payload _ _ _ =>
    payload.operationId ∉ s.finished ∧ (payload.operationId ∈ s.effects → payload.operationId ∈ s.operations.entries)
  | .clientCall _ operationId _ _ _ => operationId ∈ s.effects → operationId ∈ s.operations.entries
  | .sessiondCreate _ _ _ => ∀ origin request rest, s.toSessiond = (origin,request) :: rest →
      request.operationId ∈ s.effects → request.operationId ∈ s.sessiond.entries
  | .finish _ _ _ _ => s.daemonId ≠ none
  | .receive _ => s.daemonId ≠ none
  | _ => True

structure Reported (s : PreparedState) : Prop extends Idempotent s where
  current : ∀ operationId outcome report, s.finished.lookup operationId = some outcome →
    s.reports.lookup operationId = some report → report = outcome
  named : ∀ operationId record, s.prepared.lookup operationId = some record → record.frame.operationId = operationId

structure SameHistory (s next : PreparedState) : Prop where
  effects : next.effects = s.effects
  silent : next.silent = s.silent
  finished : next.finished = s.finished
  reports : ∀ operationId report, next.reports.lookup operationId = some report → s.reports.lookup operationId = some report
  prepared : ∀ operationId record, next.prepared.lookup operationId = some record → s.prepared.lookup operationId = some record

section Steps
variable {sizes : PreparedSizes} {s : PreparedState}

theorem sameHistory_reported (reported : Reported s) (same : SameHistory s next) : Reported next := by
  refine ⟨⟨same.effects ▸ reported.once,same.silent ▸ reported.reported⟩,?_,?_⟩
  · intro operationId outcome report done kept
    rw [same.finished] at done
    exact reported.current _ _ _ done (same.reports _ _ kept)
  · exact fun _ _ found => reported.named _ _ (same.prepared _ _ found)

theorem sendReport_same : SameHistory s (s.sendReport room operationId outcome) := by
  unfold sendReport
  split <;> exact ⟨rfl,rfl,rfl,fun _ _ kept => kept,fun _ _ kept => kept⟩

theorem popFirstReport_left (popped : popFirstReport reports = some smaller)
    (kept : smaller.lookup operationId = some report) : reports.lookup operationId = some report := by
  unfold popFirstReport at popped
  split at popped
  · cases popped
  · cases popped
    exact popFirst_kept kept

def ReportsWithin (before after : Table String Outcome) : Prop :=
  ∀ operationId report, after.lookup operationId = some report → before.lookup operationId = some report

theorem evictReports_within : ReportsWithin reports (evictWhile full popFirstReport fuel reports) := by
  have start : ReportsWithin reports reports := fun _ _ kept => kept
  refine evictWhile_keeps ?_ start
  intro store smaller so_far _ popped operationId report kept
  exact so_far operationId report (popFirstReport_left popped kept)

theorem reportOperation_same (room : Bool) (operationId : String) (outcome : Outcome) :
    (s.reportOperation sizes room operationId outcome).effects = s.effects ∧
    (s.reportOperation sizes room operationId outcome).silent = s.silent ∧
    (s.reportOperation sizes room operationId outcome).finished = s.finished ∧
    (s.reportOperation sizes room operationId outcome).prepared = s.prepared := by
  have sending : ∀ {s : PreparedState} {outcome}, (s.sendReport room operationId outcome).effects = s.effects ∧
      (s.sendReport room operationId outcome).silent = s.silent ∧
      (s.sendReport room operationId outcome).finished = s.finished ∧
      (s.sendReport room operationId outcome).prepared = s.prepared := by
    intro s outcome
    unfold sendReport
    split <;> exact ⟨rfl,rfl,rfl,rfl⟩
  unfold reportOperation
  split
  · exact ⟨rfl,rfl,rfl,rfl⟩
  · dsimp only
    split
    · exact sending
    · exact sending

theorem reportOperation_reports (known : s.daemonId ≠ none)
    (kept : (s.reportOperation sizes room operationId outcome).reports.lookup other = some report) :
    other = operationId ∧ report = outcome.anonymous ∨ other ≠ operationId ∧ s.reports.lookup other = some report := by
  unfold reportOperation at kept
  rw [if_neg known] at kept
  dsimp only at kept
  generalize roomy : evictWhile _ popFirstReport (size (s.reports.erase operationId)) (s.reports.erase operationId) = rest
    at kept
  have within : ReportsWithin (s.reports.erase operationId) rest := roomy ▸ evictReports_within
  have erased : ∀ {report}, (s.reports.erase operationId).lookup other = some report →
      other ≠ operationId ∧ s.reports.lookup other = some report := by
    intro report present
    refine ⟨?_,erase_lookup present⟩
    rintro rfl
    rw [AList.lookup_erase] at present
    cases present
  split at kept
  · exact .inr (erased (within other report (sendReport_same.reports _ _ kept)))
  · have stored := sendReport_same.reports _ _ kept
    rcases insert_lookup stored with this | ⟨different,before⟩
    · exact .inl this
    · refine .inr (erased (within other report ?_))
      split at before
      · exact popFirst_kept before
      · exact before

theorem reportOperation_unknown (unknown : s.daemonId = none) : s.reportOperation sizes room operationId outcome = s :=
  if_pos unknown

theorem reportOperation_reported (idempotent : Idempotent s)
    (others : ∀ other final report, other ≠ operationId → s.finished.lookup other = some final →
      s.reports.lookup other = some report → report = final)
    (own : ∀ final, s.finished.lookup operationId = some final → s.daemonId ≠ none ∧ final = outcome.anonymous)
    (named : ∀ operationId record, s.prepared.lookup operationId = some record → record.frame.operationId = operationId) :
    Reported (s.reportOperation sizes room operationId outcome) := by
  obtain ⟨effects,silent,finished,prepared⟩ := @reportOperation_same sizes s room operationId outcome
  refine ⟨⟨by rw [effects]; exact idempotent.once,by rw [silent]; exact idempotent.reported⟩,?_,?_⟩
  · intro other final report done kept
    rw [finished] at done
    by_cases unknown : s.daemonId = none
    · rw [reportOperation_unknown unknown] at kept
      refine others _ final _ ?_ done kept
      rintro rfl
      exact (own final done).1 unknown
    · rcases reportOperation_reports unknown kept with ⟨same,latest⟩ | ⟨different,before⟩
      · rw [same] at done
        rw [latest,(own final done).2]
      · exact others _ final _ different done before
  · rw [prepared]
    exact named

section
variable (reported : Reported s)
include reported

theorem finish_reported (known : s.daemonId ≠ none) : Reported (s.finish sizes room operationId outcome) := by
  unfold PreparedState.finish
  refine reportOperation_reported ?_ ?_ ?_ reported.named
  · exact {reported with}
  · intro other final report different done kept
    rw [AList.lookup_insert_ne different] at done
    exact reported.current other final report done kept
  · intro final done
    rw [AList.lookup_insert] at done
    exact ⟨known,(Option.some.inj done).symm⟩

theorem fail_reported (unfinished : operationId ∉ s.finished) : Reported (s.fail sizes room operationId code message) := by
  unfold fail
  refine reportOperation_reported ?_ ?_ ?_ reported.named
  · exact {reported with}
  · intro other final report _ done kept
    exact reported.current other final report done kept
  · intro final done
    exact absurd (mem_of_lookup done) unfinished

-- A call that is executed was not retained, so it was not executed before.
theorem dispatchWorkerRequest_reported (retained : operationId ∈ s.effects → operationId ∈ s.operations.entries) :
    Reported (s.dispatchWorkerRequest sizes rank channelId operationId requestId fingerprint) := by
  unfold PreparedState.dispatchWorkerRequest
  split
  · exact reported
  · split
    · rename_i executes
      have absent := startCall_absent (congrArg Prod.fst executes)
      refine ⟨⟨?_,reported.reported⟩,reported.current,reported.named⟩
      apply List.Nodup.append reported.once (List.nodup_singleton _)
      intro other earlier this
      rw [List.mem_singleton] at this
      subst this
      exact AList.lookup_eq_none.mp absent (retained earlier)
    · exact {reported with}

theorem unexpired_reported : Reported (s.unexpired now) :=
  sameHistory_reported reported ⟨rfl,rfl,rfl,fun _ _ kept => kept,fun _ _ found => (keep_lookup found).1⟩

theorem executeMarked_reported (unfinished : operationId ∉ s.finished)
    (retained : operationId ∈ s.effects → operationId ∈ s.operations.entries) :
    Reported (s.executeMarked sizes operationId now rank supervisorRoom serverRoom) := by
  have live : Reported (s.unexpired now) := unexpired_reported reported
  unfold PreparedState.executeMarked
  split
  · exact fail_reported reported unfinished
  · dsimp only
    split
    · exact fail_reported live unfinished
    · rename_i record found
      have own := live.named operationId record found
      split
      · exact fail_reported live unfinished
      · split
        · split
          · exact {live with}
          · exact fail_reported live unfinished
        · unfold PreparedState.dispatchPrepared
          rw [own]
          exact dispatchWorkerRequest_reported live retained

theorem mark_reported : Reported (s.mark operationId) :=
  {reported with}

end

theorem witnessed_unfinished (unfinished : operationId ∉ s.finished) : s.witnessed after operationId = after := by
  rw [witnessed,AList.lookup_eq_none.mpr unfinished]

theorem serverExecute_reported (reported : Reported s)
    (kept : operationId ∈ s.finished → operationId ∈ s.reports ∧ serverRoom = true)
    (retained : operationId ∈ s.effects → operationId ∈ s.reports ∨ operationId ∈ s.executed ∨ operationId ∈ s.operations.entries) :
    Reported (s.witnessed (s.executePreparedOperation sizes operationId now rank supervisorRoom serverRoom) operationId) := by
  unfold PreparedState.executePreparedOperation
  split
  · rename_i report found
    have sent : Reported (s.sendReport serverRoom operationId report) := sameHistory_reported reported sendReport_same
    unfold witnessed
    split
    · exact sent
    · rename_i outcome done
      -- The report that is kept is the last one, and it goes out again.
      have last := reported.current operationId outcome report done found
      have room := (kept (mem_of_lookup done)).2
      rw [if_pos]
      · exact sent
      · exact .inl (by rw [room,last]; rfl)
  · rename_i missing
    have gone : operationId ∉ s.reports := AList.lookup_eq_none.mp missing
    have unfinished : operationId ∉ s.finished := fun done => gone (kept done).1
    rw [witnessed_unfinished unfinished]
    split
    · exact reported
    · rename_i unmarked
      apply executeMarked_reported (mark_reported reported) unfinished
      intro earlier
      exact ((retained earlier).resolve_left gone).resolve_left unmarked

theorem dispatchPrepared_reported (reported : Reported s) (unfinished : payload.operationId ∉ s.finished)
    (retained : payload.operationId ∈ s.effects → payload.operationId ∈ s.operations.entries) :
    Reported (s.witnessed (s.dispatchPrepared sizes rank origin payload) payload.operationId) := by
  rw [witnessed_unfinished unfinished]
  exact dispatchWorkerRequest_reported reported retained

theorem clientExecute_reported (now : Nat) (reported : Reported s)
    (retained : Retained s (.clientExecute channelId payload now rank supervisorRoom)) :
    Reported (s.witnessed (s.executeForClient sizes channelId payload rank supervisorRoom) payload.operationId) := by
  cases payload with
  | sessionCreate request =>
    unfold PreparedState.executeForClient witnessed
    dsimp only
    split
    · split
      · exact {reported with}
      · exact reported
    · rename_i done
      have room : supervisorRoom = true := retained (mem_of_lookup done)
      rw [if_pos]
      · rw [if_pos room]
        exact {reported with}
      · rw [if_pos room]
        simp
  | projectValidate | worktreeRemove => exact dispatchPrepared_reported reported retained.1 retained.2
  | worktreeAdd requestId operationId repoPath workspaceId branch createNew =>
    exact dispatchPrepared_reported reported retained.1 retained.2

theorem install_reported (reported : Reported s) : Reported (s.install sizes operationId daemonId frame expiresAt now) := by
  have live : Reported (s.unexpired now) := unexpired_reported reported
  unfold PreparedState.install
  split
  · exact reported
  split
  · exact reported
  split
  · exact reported
  split
  · exact reported
  split
  · exact reported
  rename_i own
  dsimp only
  split
  · exact live
  split
  · exact live
  split
  · exact live
  refine ⟨{live with},live.current,?_⟩
  intro other record found
  rcases insert_lookup found with ⟨same,rfl⟩ | ⟨_,before⟩
  · rw [same]
    exact not_not.mp own
  · exact live.named _ _ before

theorem preparedStep_reported (reported : Reported s) (retained : Retained s action)
    (step : preparedStep sizes s action = some next) : Reported next := by
  cases action with
  | setDaemonId | sessiondStop | serverAuthenticated =>
    cases step
    exact {reported with}
  | install operationId daemonId frame expiresAt now =>
    cases step
    exact install_reported reported
  | serverExecute operationId now rank supervisorRoom serverRoom =>
    simp only [preparedStep] at step
    split at step <;> cases step
    · exact serverExecute_reported reported retained.1 retained.2
    · exact reported
  | clientExecute channelId payload now rank supervisorRoom =>
    have live : Reported (s.unexpired now) := unexpired_reported reported
    simp only [preparedStep] at step
    split at step <;> cases step
    · apply clientExecute_reported now live
      cases payload <;> exact retained
    · exact live
  | clientCall channelId operationId requestId fingerprint rank =>
    cases step
    exact dispatchWorkerRequest_reported reported retained
  | finish operationId result rank room =>
    simp only [preparedStep] at step
    split at step <;> cases step
    have ended : Reported {s with
        operations := (s.operations.finishCallInLedger sizes.ledger rank operationId (boundedResult sizes.ledger result)).2
        running := s.running.erase operationId} :=
      {reported with}
    exact finish_reported ended retained
  | sessiondCreate created weight delivered =>
    simp only [preparedStep] at step
    split at step <;> cases step
    rename_i origin request rest front
    refine ⟨⟨?_,reported.reported⟩,reported.current,reported.named⟩
    dsimp only
    split
    · rename_i executed
      apply List.Nodup.append reported.once (List.nodup_singleton _)
      intro other earlier this
      rw [List.mem_singleton] at this
      subst this
      exact deviceCreate_absent executed (retained origin request rest front earlier)
    · exact reported.once
  | receive room =>
    simp only [preparedStep] at step
    split at step <;> cases step
    rename_i rest _
    have taken : Reported {s with fromSessiond := rest} :=
      {reported with}
    unfold PreparedState.receive
    split
    · split
      · exact taken
      · exact finish_reported taken retained
    · exact finish_reported taken retained
    · exact taken

end Steps

def largeResults : PreparedSizes where
  ledger := ⟨callLedgerLimit,callLedgerBytes,24,120,48,fun _ _ _ => 25 * 1024 * 1024⟩
  operations := ⟨operationLedgerLimit,operationLedgerBytes⟩
  frameLength := fun _ => 100
  fingerprint := fun payload => payload.operationId.toUTF8.toList
  reportLength := fun _ _ => 25 * 1024 * 1024 + 100

section
variable (operationId : String)

def worktree : PreparedPayload := .worktreeAdd "request" operationId "/repo" "workspace" "main" true

def fromA (key : String) : Nat := if key = "a" then 0 else 1

def opening : List PreparedAction :=
  [.install operationId "device" (worktree operationId) 1000 0,.clientExecute "channel" (worktree operationId) 1 fromA true]

def ending : PreparedAction := .finish operationId (.result .worktreeAdded "request" []) fromA true

end

def executingAgain : PreparedAction := .serverExecute "a" 2 fromA true true

def executingA : List PreparedAction := .setDaemonId (some "device") :: opening "a"

theorem executingA_along : (preparedMachine largeResults).Along Retained .start (executingA ++ [ending "a"]) := by
  have facts : ((preparedMachine largeResults).run .start executingA).map (fun mid => mid.daemonId) = some (some "device") := by
    decide +kernel
  obtain ⟨mid,ran,known⟩ := Option.map_eq_some_iff.mp facts
  apply along_append ran
  · exact along_cons rfl True.intro (along_cons rfl True.intro (along_cons rfl ⟨by decide +kernel,by decide +kernel⟩ True.intro))
  · refine ⟨?_,fun _ _ => True.intro⟩
    change mid.daemonId ≠ none
    rw [known]
    exact Option.some_ne_none _

-- The ledger and the reports have lost the first operation, its template is still installed: when
-- the center executes it, the worktree is added a second time.
def repeating : List PreparedAction :=
  executingA ++ [ending "a"] ++ (opening "b" ++ [ending "b"]) ++ (opening "c" ++ [ending "c"]) ++ [executingAgain]

end Coflux.Device
