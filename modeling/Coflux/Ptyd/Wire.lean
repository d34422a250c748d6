import Coflux.Foundation.Framing
import Coflux.Foundation.Json
import Coflux.Ptyd.Protocol

namespace Coflux.Ptyd
open Json Framing

def maxFrameIdBytes : Nat := 255
def maxDeviceFrameBytes : Nat := 30 * 1024 * 1024
def maxIpcRecordBytes : Nat := maxDeviceFrameBytes + 2 + maxFrameIdBytes
def ptydProtocolVersion : Nat := 1

structure PtydSessionInfo where
  sessionId : String
  pid : Int
  (rows cols : UInt16)
  (tty label : String)
  (ringStart outputOffset : Nat)
  checkpointOffset : Option Nat
  exitCode : Option Int
  startedAtMs : Nat

structure PtydCursorInfo where
  clientInstanceId : String
  seq : Nat
  dataHex : String

structure PtydStatusSession where
  sessionId : String
  pid : Int
  exited : Bool

-- The numbers are machine integers; the writer puts each at its width.
inductive PtydMessage where
  | hello (protocolVersion : Nat) (ops : List String) (identity instanceId : String) (pid : Nat)
  | ok (id : Nat)
  | error (id : Nat) (code message : String)
  | opened (id : Nat) (tty : String)
  | spawned (id : Nat) (pid : Int)
  | sessions (id : Nat) (sessions : List PtydSessionInfo)
  | data (id : Nat) (sessionId : String) (fromOffset : Nat)
  | written (id appliedThroughSeq : Nat) (duplicate : Bool)
  | blobData (id : Nat) (present : Bool) (offset : Nat)
  | resizeLog (id : Nat) (entries : List PtydResizeEntry)
  | cursorList (id : Nat) (cursors : List PtydCursorInfo)
  | exited (id : Nat) (sessionId : String) (exitCode : Int) (finalOffset : Nat)
  | status (id protocolVersion : Nat) (identity instanceId : String) (pid : Nat) (sessions : List PtydStatusSession)

def u64 (n : Nat) : Bytes := unsigned 64 n
def u32 (n : Nat) : Bytes := unsigned 32 n
def u16 (n : UInt16) : Bytes := unsigned 16 n.toNat

theorem u64_length (n : Nat) : (u64 n).length ≤ 20 := unsigned_length 64 n 20 (by decide) (by decide)

theorem u16_length (n : UInt16) : (u16 n).length ≤ 5 := unsigned_length 16 n.toNat 5 (by decide) (by decide)

-- An absent option is skipped, not written as null.
def optional (name : String) (value : Option Bytes) : List (String × Bytes) :=
  value.toList.map fun bytes => (name,bytes)

def PtydSessionInfo.json (info : PtydSessionInfo) : Bytes :=
  object ([("session_id",string info.sessionId),("pid",i32 info.pid),("rows",u16 info.rows),("cols",u16 info.cols),
    ("tty",string info.tty),("label",string info.label),("ring_start",u64 info.ringStart),
    ("output_offset",u64 info.outputOffset)] ++ optional "checkpoint_offset" (info.checkpointOffset.map u64) ++
    optional "exit_code" (info.exitCode.map i32) ++ [("started_at_ms",u64 info.startedAtMs)])

def PtydCursorInfo.json (info : PtydCursorInfo) : Bytes :=
  object [("client_instance_id",string info.clientInstanceId),("seq",u64 info.seq),("data_hex",string info.dataHex)]

def PtydResizeEntry.json (entry : PtydResizeEntry) : Bytes :=
  object [("offset",u64 entry.offset),("rows",u16 entry.rows),("cols",u16 entry.cols)]

def PtydStatusSession.json (session : PtydStatusSession) : Bytes :=
  object [("session_id",string session.sessionId),("pid",i32 session.pid),("exited",bool session.exited)]

def PtydMessage.fields : PtydMessage → List (String × Bytes)
  | .hello protocolVersion ops identity instanceId pid =>
    [("kind",string "hello"),("protocol_version",u32 protocolVersion),("ops",array (ops.map string)),
      ("identity",string identity),("instance_id",string instanceId),("pid",u32 pid)]
  | .ok id => [("kind",string "ok"),("id",u64 id)]
  | .error id code message => [("kind",string "error"),("id",u64 id),("code",string code),("message",string message)]
  | .opened id tty => [("kind",string "opened"),("id",u64 id),("tty",string tty)]
  | .spawned id pid => [("kind",string "spawned"),("id",u64 id),("pid",i32 pid)]
  | .sessions id listed =>
    [("kind",string "sessions"),("id",u64 id),("sessions",array (listed.map PtydSessionInfo.json))]
  | .data id sessionId fromOffset =>
    [("kind",string "data"),("id",u64 id),("session_id",string sessionId),("from_offset",u64 fromOffset)]
  | .written id appliedThroughSeq duplicate =>
    [("kind",string "written"),("id",u64 id),("applied_through_seq",u64 appliedThroughSeq),("duplicate",bool duplicate)]
  | .blobData id present offset =>
    [("kind",string "blob_data"),("id",u64 id),("present",bool present),("offset",u64 offset)]
  | .resizeLog id entries =>
    [("kind",string "resize_log"),("id",u64 id),("entries",array (entries.map PtydResizeEntry.json))]
  | .cursorList id cursors =>
    [("kind",string "cursor_list"),("id",u64 id),("cursors",array (cursors.map PtydCursorInfo.json))]
  | .exited id sessionId exitCode finalOffset =>
    [("kind",string "exited"),("id",u64 id),("session_id",string sessionId),("exit_code",i32 exitCode),
      ("final_offset",u64 finalOffset)]
  | .status id protocolVersion identity instanceId pid listed =>
    [("kind",string "status"),("id",u64 id),("protocol_version",u32 protocolVersion),("identity",string identity),
      ("instance_id",string instanceId),("pid",u32 pid),("sessions",array (listed.map PtydStatusSession.json))]

section
variable (message : PtydMessage)

def PtydMessage.header : Bytes := object message.fields

section
variable (data : Bytes)

def ptydPayload : Bytes :=
  u32be message.header.length ++ message.header ++ data

def encodePtydRecord : Except TooLarge Bytes :=
  writeRecord maxIpcRecordBytes (ptydPayload message data)

def splitPtydPayload : Bytes → Option (Bytes × Bytes)
  | b0 :: b1 :: b2 :: b3 :: rest =>
    let headerLen := readU32be b0 b1 b2 b3
    if rest.length < headerLen then none else some (rest.take headerLen,rest.drop headerLen)
  | _ => none

-- A record that does not fit is an empty buffer, and the client never learns of it.
def record : Bytes :=
  match encodePtydRecord message data with
  | .ok bytes => bytes
  | .error _ => []

theorem maxIpcRecordBytes_small : maxIpcRecordBytes < 2 ^ 32 := by decide

theorem ptydPayload_length : (ptydPayload message data).length = 4 + message.header.length + data.length := by
  simp [ptydPayload,u32be_length,Nat.add_assoc]

end

end

open PtydMessage (fields header)

theorem record_empty_iff : record message data = [] ↔ maxIpcRecordBytes < 4 + message.header.length + data.length := by
  rw [← ptydPayload_length]
  unfold record encodePtydRecord writeRecord
  by_cases large : (ptydPayload message data).length > maxIpcRecordBytes
  · simp only [if_pos large,true_iff]
    exact large
  · simp only [if_neg large]
    constructor
    · intro empty
      simp [u32be] at empty
    · intro fits
      exact absurd fits large

theorem record_read (fits : record message data ≠ []) (rest : Bytes) :
    parseRecords maxIpcRecordBytes (record message data ++ rest) =
        (ptydPayload message data :: (parseRecords maxIpcRecordBytes rest).1,(parseRecords maxIpcRecordBytes rest).2) ∧
      splitPtydPayload (ptydPayload message data) = some (message.header,data) := by
  have small : 4 + message.header.length + data.length ≤ maxIpcRecordBytes :=
    Nat.le_of_not_lt fun large => fits (record_empty_iff.mpr large)
  have written : encodePtydRecord message data = .ok (u32be (ptydPayload message data).length ++ ptydPayload message data) :=
    writeRecord_ok.mpr ⟨by rw [ptydPayload_length]; exact small,rfl⟩
  constructor
  · rw [record,written]
    exact parse_written maxIpcRecordBytes_small written _
  · have headerSmall := maxIpcRecordBytes_small
    have length := read_u32be (n := message.header.length) (by omega)
    simp only [ptydPayload,u32be,List.cons_append,List.nil_append,splitPtydPayload,length]
    rw [if_neg (by simp)]
    simp

@[simp] theorem key_lengths : (string "kind").length = 6 ∧ (string "id").length = 4 ∧ (string "session_id").length = 12 ∧
    (string "from_offset").length = 13 ∧ (string "exit_code").length = 11 ∧ (string "final_offset").length = 14 ∧
    (string "code").length = 6 ∧ (string "message").length = 9 ∧ (string "tty").length = 5 ∧ (string "pid").length = 5 ∧
    (string "applied_through_seq").length = 21 ∧ (string "duplicate").length = 11 ∧ (string "present").length = 9 ∧
    (string "offset").length = 8 ∧ (string "entries").length = 9 ∧ (string "cursors").length = 9 ∧
    (string "sessions").length = 10 ∧ (string "protocol_version").length = 18 ∧ (string "identity").length = 10 ∧
    (string "instance_id").length = 13 := by
  decide

@[simp] theorem kind_lengths : (string "ok").length = 4 ∧ (string "data").length = 6 ∧ (string "exited").length = 8 ∧
    (string "error").length = 7 ∧ (string "opened").length = 8 ∧ (string "spawned").length = 9 ∧
    (string "written").length = 9 ∧ (string "blob_data").length = 11 ∧ (string "resize_log").length = 12 ∧
    (string "cursor_list").length = 13 ∧ (string "status").length = 8 := by
  decide

@[simp] theorem entry_key_lengths : (string "rows").length = 6 ∧ (string "cols").length = 6 ∧ (string "label").length = 7 ∧
    (string "ring_start").length = 12 ∧ (string "output_offset").length = 15 ∧
    (string "checkpoint_offset").length = 19 ∧ (string "started_at_ms").length = 15 ∧
    (string "client_instance_id").length = 20 ∧ (string "seq").length = 5 ∧ (string "data_hex").length = 10 ∧
    (string "exited").length = 8 := by
  decide

section
variable (id : Nat) (sessionId : String)

theorem ok_header_length : (PtydMessage.ok id).header.length = (u64 id).length + 19 := by
  simp [header,fields]
  omega

theorem error_header_length (code message : String) : (PtydMessage.error id code message).header.length =
    (u64 id).length + (string code).length + (string message).length + 41 := by
  simp [header,fields]
  omega

theorem opened_header_length (tty : String) : (PtydMessage.opened id tty).header.length =
    (u64 id).length + (string tty).length + 30 := by
  simp [header,fields]
  omega

theorem spawned_header_length (pid : Int) : (PtydMessage.spawned id pid).header.length =
    (u64 id).length + (i32 pid).length + 31 := by
  simp [header,fields]
  omega

theorem data_header_length (fromOffset : Nat) : (PtydMessage.data id sessionId fromOffset).header.length =
    (u64 id).length + (string sessionId).length + (u64 fromOffset).length + 50 := by
  simp [header,fields]
  omega

theorem written_header_length (seq : Nat) (duplicate : Bool) : (PtydMessage.written id seq duplicate).header.length =
    (u64 id).length + (u64 seq).length + (bool duplicate).length + 60 := by
  simp [header,fields]
  omega

theorem blobData_header_length (present : Bool) (offset : Nat) : (PtydMessage.blobData id present offset).header.length =
    (u64 id).length + (bool present).length + (u64 offset).length + 47 := by
  simp [header,fields]
  omega

theorem exited_header_length (exitCode : Int) (finalOffset : Nat) :
    (PtydMessage.exited id sessionId exitCode finalOffset).header.length =
      (u64 id).length + (string sessionId).length + (i32 exitCode).length + (u64 finalOffset).length + 66 := by
  simp [header,fields]
  omega

theorem resizeLog_header_length (log : List PtydResizeEntry) : (PtydMessage.resizeLog id log).header.length =
    (u64 id).length + (log.map fun entry => entry.json.length).sum + (log.length - 1) + 40 := by
  simp [header,fields,Function.comp_def]
  omega

theorem cursorList_header_length (infos : List PtydCursorInfo) : (PtydMessage.cursorList id infos).header.length =
    (u64 id).length + (infos.map fun info => info.json.length).sum + (infos.length - 1) + 41 := by
  simp [header,fields,Function.comp_def]
  omega

theorem sessions_header_length (infos : List PtydSessionInfo) : (PtydMessage.sessions id infos).header.length =
    (u64 id).length + (infos.map fun info => info.json.length).sum + (infos.length - 1) + 39 := by
  simp [header,fields,Function.comp_def]
  omega

theorem status_header_length (version : Nat) (identity instanceId : String) (pid : Nat) (listed : List PtydStatusSession) :
    (PtydMessage.status id version identity instanceId pid listed).header.length =
      (u64 id).length + (u32 version).length + (string identity).length + (string instanceId).length +
        (u32 pid).length + (listed.map fun entry => entry.json.length).sum + (listed.length - 1) + 91 := by
  simp [header,fields,Function.comp_def]
  omega

end

theorem PtydResizeEntry.json_length (entry : PtydResizeEntry) : entry.json.length =
    (u64 entry.offset).length + (u16 entry.rows).length + (u16 entry.cols).length + 27 := by
  simp [PtydResizeEntry.json]
  omega

theorem PtydCursorInfo.json_length (info : PtydCursorInfo) : info.json.length =
    (string info.clientInstanceId).length + (u64 info.seq).length + (string info.dataHex).length + 42 := by
  simp [PtydCursorInfo.json]
  omega

theorem PtydStatusSession.json_length (entry : PtydStatusSession) : entry.json.length =
    (string entry.sessionId).length + (i32 entry.pid).length + (bool entry.exited).length + 32 := by
  simp [PtydStatusSession.json]
  omega

-- An optional field costs its key, its value and a comma.
def optionalLength (key : Nat) (value : Option Bytes) : Nat := value.elim 0 fun bytes => key + 2 + bytes.length

theorem PtydSessionInfo.json_length (info : PtydSessionInfo) : info.json.length =
    (string info.sessionId).length + (i32 info.pid).length + (u16 info.rows).length + (u16 info.cols).length +
      (string info.tty).length + (string info.label).length + (u64 info.ringStart).length +
      (u64 info.outputOffset).length + (u64 info.startedAtMs).length +
      optionalLength 19 (info.checkpointOffset.map u64) + optionalLength 11 (info.exitCode.map i32) + 102 := by
  cases checkpoint : info.checkpointOffset <;> cases exit : info.exitCode <;>
    simp [PtydSessionInfo.json,optional,optionalLength, checkpoint,exit] <;>
    omega

structure RecordParser where
  buf : Bytes

namespace RecordParser

-- A declared length over the limit empties the buffer.
def push (parser : RecordParser) (chunk : Bytes) : RecordParser × List Bytes × Option TooLarge :=
  match Framing.push maxIpcRecordBytes parser.buf chunk with
  | (records,.ok rest) => (⟨rest⟩,records,none)
  | (records,.error large) => (⟨[]⟩,records,some large)

-- A connection is read up to the first error.
def feed (parser : RecordParser) : List Bytes → RecordParser × List Bytes × Option TooLarge
  | [] => (parser,[],none)
  | chunk :: chunks =>
    match parser.push chunk with
    | (after,records,none) =>
      let later := after.feed chunks
      (later.1,records ++ later.2.1,later.2.2)
    | failed => failed

theorem push_append (parser : RecordParser) (chunk more : Bytes) :
    parser.push (chunk ++ more) = match parser.push chunk with
      | (after,records,none) => ((after.push more).1,records ++ (after.push more).2.1,(after.push more).2.2)
      | failed => failed := by
  unfold push Framing.push
  rw [← List.append_assoc,parse_append]
  rcases parseRecords maxIpcRecordBytes (parser.buf ++ chunk) with ⟨_,large | rest⟩
  · rfl
  · dsimp only
    rcases parseRecords maxIpcRecordBytes (rest ++ more) with ⟨_,_ | _⟩
    · rfl
    · rfl

theorem push_settled (pushed : push parser chunk = (after,records,none)) : after.push [] = (after,[],none) := by
  unfold push Framing.push at pushed ⊢
  split at pushed
  · rename_i parsed
    cases pushed
    rw [List.append_nil,parse_rest (congrArg Prod.snd parsed)]
  · cases pushed

theorem feed_flatten (settled : push parser [] = (parser,[],none)) (chunks : List Bytes) :
    parser.feed chunks = parser.push chunks.flatten := by
  induction chunks generalizing parser with
  | nil => exact settled.symm
  | cons chunk chunks ih =>
    rw [List.flatten_cons,push_append,feed]
    rcases pushed : parser.push chunk with ⟨_,_,_ | _⟩
    · dsimp only
      rw [ih (push_settled pushed)]
    · rfl

end RecordParser

-- Only the stream of bytes matters, not how it is cut: the records come back, up to a length over
-- the limit.
theorem records_chunked (payloads : List Bytes) (within : ∀ payload ∈ payloads, payload.length ≤ maxIpcRecordBytes) :
    ∃ records, payloads.mapM (writeRecord maxIpcRecordBytes) = .ok records ∧ ∀ chunks : List Bytes,
      (chunks.flatten = records.flatten → RecordParser.feed ⟨[]⟩ chunks = (⟨[]⟩,payloads,none)) ∧
      ∀ declared rest, maxIpcRecordBytes < declared → declared < 2 ^ 32 →
        chunks.flatten = records.flatten ++ (u32be declared ++ rest) →
        RecordParser.feed ⟨[]⟩ chunks = (⟨[]⟩,payloads,some ⟨declared,maxIpcRecordBytes⟩) := by
  obtain ⟨records,written⟩ := write_all within
  have empty : parseRecords maxIpcRecordBytes [] = ([],.ok []) := by rw [parseRecords]; simp
  have settled : RecordParser.push ⟨[]⟩ [] = (⟨[]⟩,[],none) := by
    simp [RecordParser.push,Framing.push,empty]
  refine ⟨records,written,fun _ => ⟨?_,?_⟩⟩
  · intro whole
    have parsed := parse_all maxIpcRecordBytes_small written []
    rw [List.append_nil,empty,List.append_nil] at parsed
    rw [RecordParser.feed_flatten settled,whole]
    simp [RecordParser.push,Framing.push,parsed]
  · intro declared rest large small whole
    have header : parseRecords maxIpcRecordBytes (u32be declared ++ rest) = ([],.error ⟨declared,maxIpcRecordBytes⟩) := by
      simp only [u32be,List.cons_append,List.nil_append]
      rw [parseRecords]
      simp only [read_u32be small]
      rw [if_pos large]
    have parsed := parse_all maxIpcRecordBytes_small written (u32be declared ++ rest)
    rw [header,List.append_nil] at parsed
    rw [RecordParser.feed_flatten settled,whole]
    simp [RecordParser.push,Framing.push,parsed]

theorem records_chunked_bytewise :
    ∃ records, [[0x61,0x62],[],[0x63]].mapM (writeRecord maxIpcRecordBytes) = .ok records ∧
      RecordParser.feed ⟨[]⟩ (records.flatten.map fun byte => [byte]) = (⟨[]⟩,[[0x61,0x62],[],[0x63]],none) := by
  obtain ⟨records,written,chunked⟩ := records_chunked [[0x61,0x62],[],[0x63]] (by decide)
  refine ⟨records,written,(chunked _).1 ?_⟩
  rw [← List.flatMap_def,List.flatMap_singleton']

end Coflux.Ptyd
