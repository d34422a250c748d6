import Coflux.Ptyd.Server

namespace Coflux.Ptyd
open FiniteMap StepMachine Json Framing
open SessionInner (checkCursor checkWrite commitWrite info readReply)
open Server (serve session)
open List (length_append length_map length_nil map_map)

def PtydMessage.replyTo : PtydMessage → Option Nat
  | .hello _ _ _ _ _ => none
  | .ok id => some id
  | .error id _ _ => some id
  | .opened id _ => some id
  | .spawned id _ => some id
  | .sessions id _ => some id
  | .data id _ _ => some id
  | .written id _ _ => some id
  | .blobData id _ _ => some id
  | .resizeLog id _ => some id
  | .cursorList id _ => some id
  | .exited id _ _ _ => some id
  | .status id _ _ _ _ _ => some id

-- The requests whose reply can outgrow a record, and exactly when it does not.

def UnknownRoom (id : Nat) (sessionId : String) : Prop :=
  (u64 id).length + (escaped sessionId).length + 84 ≤ maxIpcRecordBytes

section
variable (server : Server)

section
variable (id : Nat)

section
variable (sessionId : String)

def SessionRoom (room : SessionInner → Prop) : Prop :=
  match server.sessions.lookup sessionId with
  | some slot => room slot.inner
  | none => UnknownRoom id sessionId

-- A program that is not found is named in the error.
def ProgramRoom (argv : List String) (os : Os) (st : SessionInner) : Prop :=
  st.pid = none → st.slave.isSome = true → ∀ program rest, argv = program :: rest →
    program.toList.any (· = '/') = false → os.executable = false →
    (u64 id).length + (escaped program).length + 79 ≤ maxIpcRecordBytes

def ReadRoom (fromOffset limit : Nat) (st : SessionInner) : Prop :=
  st.file.start ≤ fromOffset → fromOffset ≤ st.file.end →
    (u64 id).length + (escaped sessionId).length + (u64 fromOffset).length +
      (min st.file.end (fromOffset + limit) - fromOffset) + 56 ≤ maxIpcRecordBytes

-- Stored input is listed in hex, two digits a byte.
def cursorBytes (client : String) (cursor : Cursor) : Nat :=
  (escaped client).length + (u64 cursor.seq).length + 2 * cursor.data.length + 46

def CursorRoom (st : SessionInner) : Prop :=
  (u64 id).length + ((entries st.cursors).map fun entry => cursorBytes entry.1 entry.2).sum +
    (size st.cursors - 1) + 45 ≤ maxIpcRecordBytes

def sessionBytes (st : SessionInner) : Nat :=
  (escaped sessionId).length + (i32 (st.pid.getD (-1))).length + (u16 st.file.rows).length +
    (u16 st.file.cols).length + (escaped st.tty).length + (escaped st.file.label).length +
    (u64 st.file.start).length + (u64 st.file.end).length + (u64 st.startedAtMs).length +
    optionalLength 19 (st.file.checkpoint.map u64) + optionalLength 11 (st.exit.map i32) + 108

def ListRoom : Prop :=
  (u64 id).length + ((entries server.sessions).map fun entry => sessionBytes entry.1 entry.2.inner).sum +
    (size server.sessions - 1) + 43 ≤ maxIpcRecordBytes

def statusBytes (st : SessionInner) : Nat :=
  (escaped sessionId).length + (i32 (st.pid.getD (-1))).length + (bool (st.exit.isSome || st.pid.isNone)).length + 34

end

def StatusRoom : Prop :=
  (u64 id).length + (u32 ptydProtocolVersion).length + (escaped server.identity).length +
    (escaped server.instanceId).length + (u32 server.pid).length +
    ((entries server.sessions).map fun entry => statusBytes entry.1 entry.2.inner).sum +
    (size server.sessions - 1) + 99 ≤ maxIpcRecordBytes

def ReplyRoom (request : PtydRequest) (data : Bytes) (os : Os) : Prop :=
  opName request ∈ server.ops →
  match request with
  | .«open» _ _ _ _ => True
  | .spawn sessionId argv _ _ => SessionRoom server id sessionId (ProgramRoom id argv os)
  | .list => ListRoom server id
  | .subscribe sessionId _ => SessionRoom server id sessionId fun _ => True
  | .read sessionId fromOffset maxBytes =>
    SessionRoom server id sessionId (ReadRoom id sessionId fromOffset.toNat (min maxBytes.toNat ptydMaxReadBytes))
  | .write sessionId client inputSeq =>
    admitWrite ⟨client,inputSeq.toNat,data⟩ = none → SessionRoom server id sessionId fun _ => True
  | .resize sessionId _ _ => SessionRoom server id sessionId fun _ => True
  | .checkpoint sessionId _ => SessionRoom server id sessionId fun _ => True
  | .blob sessionId => SessionRoom server id sessionId fun _ => True
  | .resizes sessionId => SessionRoom server id sessionId fun _ => True
  | .cursors sessionId => SessionRoom server id sessionId (CursorRoom id)
  | .kill sessionId => SessionRoom server id sessionId fun _ => True
  | .remove sessionId => SessionRoom server id sessionId fun _ => True
  | .status => StatusRoom server id
  | .shutdown _ => True

end

end

-- Only a subscription is followed by further records under its id.
def Answered (id : Nat) (streams : Bool) (room : Prop) (sends : List Outgoing) : Prop :=
  ∃ reply later, sends = reply :: later ∧ reply.message.replyTo = some id ∧ (streams = false → later = []) ∧
    (record reply.message reply.data ≠ [] ↔ room)

variable {server : Server} {id : Nat}

theorem record_fits_iff : record message data ≠ [] ↔ 4 + message.header.length + data.length ≤ maxIpcRecordBytes := by
  rw [Ne,record_empty_iff]
  exact Nat.not_lt

theorem answered_exact (named : out.message.replyTo = some id)
    (room : 4 + out.message.header.length + out.data.length ≤ maxIpcRecordBytes ↔ enough) :
    Answered id streams enough [out] :=
  ⟨out,[],rfl,named,fun _ => rfl,record_fits_iff.trans room⟩

theorem answered_small (named : out.message.replyTo = some id)
    (small : 4 + out.message.header.length + out.data.length ≤ maxIpcRecordBytes) : Answered id streams True [out] :=
  answered_exact named ⟨fun _ => True.intro,fun _ => small⟩

theorem answered_congr (answered : Answered id streams room sends) (same : room ↔ other) :
    Answered id streams other sends := by
  obtain ⟨reply,later,equal,named,rest,readable⟩ := answered
  exact ⟨reply,later,equal,named,rest,readable.trans same⟩

def SmallError (error : OpError) : Prop := error.code.utf8ByteSize + error.message.utf8ByteSize ≤ 2048

instance (error : OpError) : Decidable (SmallError error) := inferInstanceAs (Decidable (_ ≤ _))

theorem smallError_answered (small : SmallError error) : Answered id streams True [refusal id error] := by
  have idLength := u64_length id
  have code := escaped_length error.code
  have message := escaped_length error.message
  have room : 6 * 2048 + 200 ≤ maxIpcRecordBytes := by decide
  unfold SmallError at small
  refine answered_small rfl ?_
  simp only [refusal,error_header_length,string_length,length_nil]
  omega

theorem ok_answered : Answered id streams True [⟨.ok id,[]⟩] := by
  have idLength := u64_length id
  have room : 100 ≤ maxIpcRecordBytes := by decide
  refine answered_small rfl ?_
  simp only [ok_header_length,length_nil]
  omega

theorem unknown_answered : Answered id streams (UnknownRoom id sessionId)
      [refusal id ⟨"session_not_found",s!"session {sessionId} 不存在"⟩] := by
  refine answered_exact rfl ?_
  have texts : (escaped "session_not_found").length = 17 ∧ (escaped (toString "session ")).length = 8 ∧
      (escaped (toString " 不存在")).length = 10 := by decide
  have named : (escaped (toString sessionId)).length = (escaped sessionId).length := rfl
  simp only [refusal,error_header_length,string_length,escaped_append,length_append,length_nil,UnknownRoom]
  omega

theorem withSession_answered (critical : SessionInner → OpResult × SessionInner) (room : SessionInner → Prop)
    (each : ∀ slot, server.sessions.lookup sessionId = some slot →
      Answered id streams (room slot.inner) (responses id (critical slot.inner).1)) :
    Answered id streams (SessionRoom server id sessionId room) (responses id (server.withSession sessionId critical).1) := by
  unfold Server.withSession session SessionRoom
  cases found : server.sessions.lookup sessionId with
  | none => exact unknown_answered
  | some slot => exact each _ found

theorem open_answered : Answered id false True (responses id (server.open id sessionId rows cols label os).1) := by
  have idLength := u64_length id
  have room : 6 * 128 + 200 ≤ maxIpcRecordBytes := by decide
  unfold Server.open
  split
  · exact smallError_answered (by decide)
  split
  · exact smallError_answered (by decide)
  split
  · exact smallError_answered (by decide)
  split
  · rename_i failure _
    have short := failure.short
    refine smallError_answered ?_
    have code : "openpty".utf8ByteSize ≤ 10 := by decide
    simp only [SmallError]
    omega
  · rename_i pair _
    have code : "ring_file".utf8ByteSize ≤ 10 := by decide
    split
    · rename_i created
      refine smallError_answered ?_
      unfold SessionFile.create at created
      split at created
      · cases created
        decide
      · cases created
    · rename_i failure _ _
      have short := failure.short
      refine smallError_answered ?_
      simp only [SmallError]
      omega
    · have short := pair.short
      have tty := escaped_length pair.tty
      refine answered_small rfl ?_
      simp only [opened_header_length,string_length,length_nil]
      omega

theorem resolveProgram_room (program : String) (os : Os) (id : Nat) : match resolveProgram program os with
    | none => True
    | some message => Answered id false
        (program.toList.any (· = '/') = false → os.executable = false →
          (u64 id).length + (escaped program).length + 79 ≤ maxIpcRecordBytes)
        [refusal id ⟨"spawn",message⟩] := by
  unfold resolveProgram
  by_cases slash : program.toList.any (· = '/') = true
  · simp only [if_pos slash]
    split
    · trivial
    · rename_i found
      obtain ⟨_,rfl⟩ := guard_parts found
      refine answered_congr (smallError_answered (by decide)) ?_
      simp [slash]
  · simp only [if_neg slash]
    cases os.executable with
    | true => simp
    | false =>
      simp only [Bool.false_eq_true,if_false]
      refine answered_exact rfl ?_
      have texts : (escaped "spawn").length = 5 ∧ (escaped (toString "找不到可执行文件 ")).length = 25 := by decide
      have named : (escaped (toString program)).length = (escaped program).length := rfl
      have plain := Bool.eq_false_iff.mpr slash
      simp only [refusal,error_header_length,string_length,escaped_append,length_append,length_nil,plain,
        true_implies]
      omega

-- Once the program is resolved, no error depends on the request.
theorem ptySpawn_small (resolved : resolveProgram program os = none)
    (failed : ptySpawn (program :: rest) env cwd os = .error message) : SmallError ⟨"spawn",message⟩ := by
  simp only [ptySpawn,resolved] at failed
  split at failed
  · cases failed
    decide
  split at failed
  · cases failed
    decide
  split at failed
  · cases failed
    decide
  split at failed
  · cases failed
  · rename_i failure _
    cases failed
    have short := failure.short
    have code : "spawn".utf8ByteSize ≤ 10 := by decide
    simp only [SmallError]
    omega

theorem spawn_answered : Answered id false (SessionRoom server id sessionId (ProgramRoom id argv os))
      (responses id (server.spawn id sessionId argv env cwd os).1) := by
  refine withSession_answered _ _ ?_
  intro slot _
  have roomy : ∀ {error : OpError}, SmallError error → (ProgramRoom id argv os slot.inner ↔ True) →
      Answered id false (ProgramRoom id argv os slot.inner) [refusal id error] := by
    intro error small always
    exact answered_congr (smallError_answered small) always.symm
  by_cases spawned : slot.inner.pid.isSome = true
  · rw [if_pos spawned]
    refine roomy (by decide) (iff_true_intro ?_)
    intro absent
    simp [absent] at spawned
  rw [if_neg spawned]
  have pid : slot.inner.pid = none := by simpa using spawned
  by_cases closed : slot.inner.slave.isNone = true
  · rw [if_pos closed]
    refine roomy (by decide) (iff_true_intro ?_)
    intro _ present
    simp [Option.isNone_iff_eq_none.mp closed] at present
  rw [if_neg closed]
  have slave : slot.inner.slave.isSome = true := by simpa [Option.isSome_iff_ne_none] using closed
  cases argv with
  | nil =>
    refine roomy (by decide) (iff_true_intro ?_)
    intro _ _ program rest equal
    cases equal
  | cons program rest =>
    have same : ProgramRoom id (program :: rest) os slot.inner ↔
        (program.toList.any (· = '/') = false → os.executable = false →
          (u64 id).length + (escaped program).length + 79 ≤ maxIpcRecordBytes) := by
      constructor
      · intro room
        exact room pid slave _ _ rfl
      · intro room _ _ other others equal
        cases equal
        exact room
    have resolved := resolveProgram_room program os id
    cases outcome : resolveProgram program os with
    | some message =>
      rw [outcome] at resolved
      simp only [ptySpawn,outcome]
      exact answered_congr resolved same.symm
    | none =>
      -- The name was found or holds a slash, so no error names it.
      have vacuous : ProgramRoom id (program :: rest) os slot.inner ↔ True := by
        refine iff_true_intro (same.mpr ?_)
        intro plain missing
        simp [resolveProgram,plain,missing] at outcome
      split
      · rename_i failed
        exact roomy (ptySpawn_small outcome failed) vacuous
      · rename_i child _
        have idLength := u64_length id
        have pidLength := i32_length child
        have fits : 100 ≤ maxIpcRecordBytes := by decide
        refine answered_congr (answered_small rfl ?_) vacuous.symm
        simp only [spawned_header_length,length_nil]
        omega

theorem entries_length (table : Table κ α) : (entries table).length = size table := by simp [entries,size]

theorem sorted_sum (items : List α) {weight : α → Nat} :
    ((items.mergeSort before).map weight).sum = (items.map weight).sum :=
  ((List.mergeSort_perm items before).map weight).sum_nat

theorem list_answered (id : Nat) : Answered id false (ListRoom server id) (responses id (server.list id).1) := by
  refine answered_exact rfl ?_
  simp only [sessions_header_length,sorted_sum,List.length_mergeSort,length_map,map_map,Function.comp_def,
    PtydSessionInfo.json_length,info,string_length,length_nil,ListRoom]
  rw [List.map_congr_left (g := fun entry => sessionBytes entry.1 entry.2.inner),entries_length]
  · omega
  · intro entry _
    simp only [sessionBytes]
    omega

theorem status_answered {id : Nat} : Answered id false (StatusRoom server id) (responses id (server.status id).1) := by
  refine answered_exact rfl ?_
  simp only [status_header_length,sorted_sum,List.length_mergeSort,length_map,map_map,Function.comp_def,
    PtydStatusSession.json_length,SessionInner.statusEntry,string_length,length_nil,StatusRoom]
  rw [List.map_congr_left (g := fun entry => statusBytes entry.1 entry.2.inner),entries_length]
  · omega
  · intro entry _
    simp only [statusBytes]
    omega

theorem hexEncode_length (data : Bytes) : (escaped (hexEncode data)).length = 2 * data.length := by
  have digit : ∀ n < 16, (escapeChar (hexChar n)).length = 1 := by decide
  unfold hexEncode
  rw [escaped_plain]
  · induction data with
    | nil => rfl
    | cons byte rest ih =>
      simp only [List.flatMap_cons,length_append,List.length_cons,length_nil,ih]
      omega
  · intro c mem
    obtain ⟨byte,_,pair⟩ := List.mem_flatMap.mp mem
    have bound := byte.toNat_lt
    rcases List.mem_cons.mp pair with rfl | second
    · exact digit _ (by omega)
    · rw [List.mem_singleton.mp second]
      exact digit _ (by omega)

theorem cursors_answered (id : Nat) :
    Answered id false (SessionRoom server id sessionId (CursorRoom id)) (responses id (server.cursors id sessionId).1) := by
  refine withSession_answered _ _ ?_
  intro slot _
  refine answered_exact rfl ?_
  simp only [cursorList_header_length,SessionInner.cursorInfos,sorted_sum,List.length_mergeSort,length_map,
    map_map,Function.comp_def,PtydCursorInfo.json_length,string_length,hexEncode_length,length_nil,CursorRoom]
  rw [List.map_congr_left (g := fun entry => cursorBytes entry.1 entry.2),entries_length]
  · omega
  · intro entry _
    simp only [cursorBytes]
    omega

theorem offsetText_small (left : first < 2 ^ 64) (right : second < 2 ^ 64) :
    SmallError ⟨"offset_ahead",s!"偏移 {first} 超过当前输出末尾 {second}"⟩ ∧
      SmallError ⟨"offset_evicted",s!"偏移 {first} 早于 ring 起点 {second}"⟩ := by
  have firstSize := decimal_size (Nat.lt_trans left (by decide))
  have secondSize := decimal_size (Nat.lt_trans right (by decide))
  have texts : "offset_ahead".utf8ByteSize ≤ 20 ∧ "offset_evicted".utf8ByteSize ≤ 20 ∧
      (toString "偏移 ").utf8ByteSize ≤ 20 ∧ (toString " 超过当前输出末尾 ").utf8ByteSize ≤ 40 ∧
      (toString " 早于 ring 起点 ").utf8ByteSize ≤ 40 := by decide
  simp only [SmallError,String.utf8ByteSize_append]
  omega

theorem start_lt {file : SessionFile} (bound : file.end < 2 ^ 64) : file.start < 2 ^ 64 :=
  Nat.lt_of_le_of_lt (Nat.sub_le _ _) bound

theorem subscribe_answered (small : ServerSmall server) {id connection : Nat} (fromOffset : UInt64) :
    Answered id true (SessionRoom server id sessionId fun _ => True)
      (responses id (server.subscribe id connection sessionId fromOffset.toNat).1) := by
  refine withSession_answered _ _ ?_
  intro slot found
  have bound := (small.sessions _ _ found).offset
  cases checked : slot.inner.file.checkOffset fromOffset.toNat with
  | some error =>
    unfold SessionFile.checkOffset at checked
    split at checked
    · cases checked
      exact smallError_answered (offsetText_small fromOffset.toNat_lt bound).1
    · obtain ⟨_,rfl⟩ := guard_parts checked
      exact smallError_answered (offsetText_small fromOffset.toNat_lt (start_lt bound)).2
  | none =>
    obtain ⟨_,_,equal,named,_,fits⟩ := (ok_answered : Answered id false True _)
    cases equal
    refine ⟨⟨.ok id,[]⟩,slot.inner.backlog id sessionId fromOffset.toNat ++ slot.inner.exitNotice id sessionId,
      ?_,named,?_,fits⟩
    · simp only [responses,SessionInner.subscribe,List.take_length,SessionInner.subscribeSends,List.cons_append]
    · intro never
      cases never

theorem readReply_answered {id : Nat} (sessionId : String) (offsetBound : offset < 2 ^ 64) (bound : st.file.end < 2 ^ 64) :
    Answered id false (ReadRoom id sessionId offset limit st) (responses id (st.readReply id sessionId offset limit)) := by
  rcases read_cases st.file offset limit with ⟨refused,outside⟩ | ⟨_,found,length,above,below⟩
  · have vacuous : True ↔ ReadRoom id sessionId offset limit st := by
      refine (iff_true_intro ?_).symm
      intro above below
      rcases outside with low | high
      · exact absurd low (Nat.not_lt.mpr above)
      · exact absurd high (Nat.not_lt.mpr below)
    rw [readReply,refused]
    simp only [SessionInner.readOutcome]
    split
    · exact answered_congr (smallError_answered (offsetText_small offsetBound bound).1) vacuous
    · exact answered_congr (smallError_answered (offsetText_small offsetBound (start_lt bound)).2) vacuous
  · rw [readReply,found]
    refine answered_exact rfl ?_
    simp only [data_header_length,string_length,length]
    have same : ∀ size, 4 + ((u64 id).length + ((escaped sessionId).length + 2) + (u64 offset).length + 50) + size ≤
        maxIpcRecordBytes ↔
        (u64 id).length + (escaped sessionId).length + (u64 offset).length + size + 56 ≤ maxIpcRecordBytes := by
      intro size
      omega
    exact ⟨fun fits _ _ => (same _).mp fits,fun room => (same _).mpr (room above below)⟩

theorem read_answered (small : ServerSmall server) (fromOffset : UInt64) :
    Answered id false (SessionRoom server id sessionId (ReadRoom id sessionId fromOffset.toNat limit))
      (responses id (server.withSession sessionId fun st =>
        (st.readReply id sessionId fromOffset.toNat limit,st)).1) := by
  refine withSession_answered (fun st => (st.readReply id sessionId fromOffset.toNat limit,st)) _ ?_
  intro slot found
  have bound := (small.sessions _ _ found).offset
  dsimp only
  exact readReply_answered _ fromOffset.toNat_lt bound

theorem checkWrite_small (small : SessionSmall st) (refused : st.checkWrite request = .refuse error) : SmallError error := by
  unfold checkWrite at refused
  split at refused
  · cases refused
    decide
  · split at refused
    · rename_i found
      subst refused
      unfold checkCursor at found
      split at found
      · rename_i cursor known
        have seq := small.seqs _ _ known
        split at found
        · split at found
          · cases found
            decide
          · cases found
        · split at found
          · cases found
            have size := decimal_size (n := cursor.seq + 1) (by omega)
            have texts : "input_seq_gap".utf8ByteSize ≤ 20 ∧
                (toString "input sequence 不连续，期望 ").utf8ByteSize ≤ 60 := by decide
            simp only [SmallError,String.utf8ByteSize_append]
            omega
          · cases found
      · split at found
        · cases found
          decide
        · split at found
          · cases found
            decide
          · cases found
    · split at refused
      · cases refused
      · cases refused
        decide

theorem written_answered (seq : Nat) : Answered id false True [⟨.written id seq duplicate,[]⟩] := by
  have idLength := u64_length id
  have seqLength := u64_length seq
  have flagLength := bool_length duplicate
  have room : 200 ≤ maxIpcRecordBytes := by decide
  refine answered_small rfl ?_
  simp only [written_header_length,length_nil]
  omega

theorem write_answered (small : ServerSmall server) :
    ((server.write id sessionId request).1 = .ok [] ∧ ∃ pending, pending.id = id ∧
      (server.write id sessionId request).2.writes = server.writes ++ [pending]) ∨
    Answered id false (admitWrite request = none → SessionRoom server id sessionId fun _ => True)
      (responses id (server.write id sessionId request).1) := by
  unfold Server.write
  cases admitted : admitWrite request with
  | some error =>
    refine .inr (answered_congr (smallError_answered ?_) (by simp))
    unfold admitWrite at admitted
    split at admitted
    · cases admitted
      decide
    · split at admitted
      · cases admitted
        decide
      · obtain ⟨_,rfl⟩ := guard_parts admitted
        decide
  | none =>
    simp only [session,SessionRoom,true_implies]
    cases found : server.sessions.lookup sessionId with
    | none => exact .inr unknown_answered
    | some slot =>
      cases verdict : slot.inner.checkWrite request with
      | refuse error =>
        simp only [verdict]
        exact .inr (smallError_answered (checkWrite_small (small.sessions _ _ found) verdict))
      | duplicate seq =>
        simp only [verdict]
        exact .inr (written_answered _)
      | proceed master =>
        simp only [verdict]
        exact .inl ⟨trivial,⟨id,sessionId,slot.serial,request⟩,rfl,rfl⟩

theorem resize_answered : Answered id false (SessionRoom server id sessionId fun _ => True)
      (responses id (server.resize id sessionId rows cols os).1) := by
  refine withSession_answered _ _ ?_
  intro slot _
  split
  · rename_i failure _
    have short := failure.short
    have code : "resize".utf8ByteSize ≤ 10 := by decide
    refine smallError_answered ?_
    simp only [SmallError]
    omega
  · exact ok_answered

theorem checkpoint_answered :
    Answered id false (SessionRoom server id sessionId fun _ => True)
      (responses id (server.checkpoint id sessionId offset blob).1) := by
  refine withSession_answered _ _ ?_
  intro slot _
  split
  · rename_i refused
    refine smallError_answered ?_
    unfold SessionFile.setCheckpoint at refused
    split at refused
    · cases refused
      decide
    · split at refused
      · cases refused
        decide
      · cases refused
  · exact ok_answered

theorem blob_answered (small : ServerSmall server) :
    Answered id false (SessionRoom server id sessionId fun _ => True) (responses id (server.blob id sessionId).1) := by
  have idLength := u64_length id
  have room : ptydBlobCapacity + 200 ≤ maxIpcRecordBytes := by decide
  refine withSession_answered _ _ ?_
  intro slot found
  have bound := (small.sessions _ _ found).blob
  split
  · rename_i offset _ stored
    obtain ⟨_,_,equal⟩ := Option.map_eq_some_iff.mp stored
    cases equal
    have offsetLength := u64_length offset
    have flagLength := bool_length true
    refine answered_small rfl ?_
    simp only [blobData_header_length]
    omega
  · have offsetLength := u64_length 0
    have flagLength := bool_length false
    refine answered_small rfl ?_
    simp only [blobData_header_length,length_nil]
    omega

theorem resizes_answered (small : ServerSmall server) :
    Answered id false (SessionRoom server id sessionId fun _ => True) (responses id (server.resizes id sessionId).1) := by
  have idLength := u64_length id
  have room : ptydResizeLogEntries * 58 + 200 ≤ maxIpcRecordBytes := by decide
  refine withSession_answered _ _ ?_
  intro slot found
  have count := (small.sessions _ _ found).resizes
  have total := List.sum_le_card_nsmul (slot.inner.file.resizes.map fun entry => entry.json.length) 57 (by
    refine List.forall_mem_map.mpr fun entry _ => ?_
    have offset := u64_length entry.offset
    have rows := u16_length entry.rows
    have cols := u16_length entry.cols
    simp only [PtydResizeEntry.json_length]
    omega)
  rw [length_map,Nat.nsmul_eq_mul] at total
  refine answered_small rfl ?_
  simp only [resizeLog_header_length,length_nil]
  omega

theorem kill_answered :
    Answered id false (SessionRoom server id sessionId fun _ => True) (responses id (server.kill id sessionId).1) := by
  refine withSession_answered _ _ ?_
  intro slot _
  exact ok_answered

theorem remove_answered :
    Answered id false (SessionRoom server id sessionId fun _ => True) (responses id (server.remove id sessionId).1) := by
  unfold Server.remove session SessionRoom
  cases found : server.sessions.lookup sessionId with
  | none => exact unknown_answered
  | some slot =>
    simp only
    split
    · exact smallError_answered (by decide)
    · exact ok_answered

theorem shutdown_answered : Answered id false True (responses id (server.shutdown id instanceId).1) := by
  unfold Server.shutdown
  split
  · exact smallError_answered (by decide)
  · exact ok_answered

def isSubscribe : PtydRequest → Bool
  | .subscribe _ _ => true
  | _ => false

theorem unknownOp_answered :
    Answered id (isSubscribe request) True [refusal id ⟨"unknown_op",s!"本 ptyd 不提供 {opName request}"⟩] := by
  have known : opName request ∈ ptydV1Ops := by cases request <;> simp [opName,ptydV1Ops]
  have short : ∀ op ∈ ptydV1Ops, (toString op).utf8ByteSize ≤ 20 := by decide
  have name := short _ known
  have texts : "unknown_op".utf8ByteSize ≤ 20 ∧ (toString "本 ptyd 不提供 ").utf8ByteSize ≤ 40 := by decide
  refine smallError_answered ?_
  simp only [SmallError,String.utf8ByteSize_append]
  omega

theorem perform_answered (small : ServerSmall server) (request : PtydRequest)
    (offered : opName request ∈ server.ops) :
    ((server.perform connection id request data os).1 = .ok [] ∧ ∃ pending, pending.id = id ∧
      (server.perform connection id request data os).2.writes = server.writes ++ [pending]) ∨
    Answered id (isSubscribe request) (ReplyRoom server id request data os)
      (responses id (server.perform connection id request data os).1) := by
  have room : ∀ {enough : Prop}, (enough ↔ ReplyRoom server id request data os) →
      Answered id (isSubscribe request) enough (responses id (server.perform connection id request data os).1) →
      Answered id (isSubscribe request) (ReplyRoom server id request data os)
        (responses id (server.perform connection id request data os).1) :=
    fun same answered => answered_congr answered same
  have guard : ∀ {enough : Prop}, enough ↔ (opName request ∈ server.ops → enough) :=
    ⟨fun holds _ => holds,fun holds => holds offered⟩
  cases request with
  | «open» sessionId rows cols label => exact .inr (room guard open_answered)
  | spawn sessionId argv env cwd => exact .inr (room guard spawn_answered)
  | list => exact .inr (room guard (list_answered id))
  | subscribe sessionId fromOffset => exact .inr (room guard (subscribe_answered small _))
  | read sessionId fromOffset maxBytes =>
    exact .inr (room guard (read_answered small _))
  | write sessionId client inputSeq =>
    rcases write_answered small with later | now
    · exact .inl later
    · exact .inr (room guard now)
  | resize sessionId rows cols => exact .inr (room guard resize_answered)
  | checkpoint sessionId offset => exact .inr (room guard checkpoint_answered)
  | blob sessionId => exact .inr (room guard (blob_answered small))
  | resizes sessionId => exact .inr (room guard (resizes_answered small))
  | cursors sessionId => exact .inr (room guard (cursors_answered id))
  | kill sessionId => exact .inr (room guard kill_answered)
  | remove sessionId => exact .inr (room guard remove_answered)
  | status => exact .inr (room guard status_answered)
  | shutdown instanceId => exact .inr (room guard shutdown_answered)

theorem writeFailure_small (bound : request.data.length ≤ ptydMaxInputBytes) (part : written < request.data.length)
    (failure : OsError) : SmallError (writeFailure request written errno failure.text) := by
  have short : (toString failure.text).utf8ByteSize ≤ 256 := failure.short
  have limit : ptydMaxInputBytes < 10 ^ 20 := by decide
  have texts : "pty_closed".utf8ByteSize ≤ 20 ∧ "pty_write_failed".utf8ByteSize ≤ 20 ∧
      "pty_write_partial".utf8ByteSize ≤ 20 ∧ (toString "PTY 从属端已关闭：").utf8ByteSize ≤ 40 ∧
      (toString "PTY 写入失败：").utf8ByteSize ≤ 40 ∧ (toString "PTY 仅写入 ").utf8ByteSize ≤ 40 ∧
      (toString "/").utf8ByteSize ≤ 10 ∧ (toString " 字节：").utf8ByteSize ≤ 20 := by decide
  have count := decimal_size (n := written) (by omega)
  have total := decimal_size (n := request.data.length) (by omega)
  unfold writeFailure
  split
  · simp only [SmallError,String.utf8ByteSize_append]
    omega
  split
  · simp only [SmallError,String.utf8ByteSize_append]
    omega
  · simp only [SmallError,String.utf8ByteSize_append]
    omega

theorem finishWrite_answered (small : ServerSmall server) (finished : server.finishWrite index ending = some (reply,next)) :
    ∃ pending, server.writes[index]? = some pending ∧ next.writes = server.writes.eraseIdx index ∧
      reply.message.replyTo = some pending.id ∧ record reply.message reply.data ≠ [] := by
  unfold Server.finishWrite at finished
  split at finished
  · cases finished
  rename_i pending found
  have bound := (small.writes _ (List.mem_of_getElem? found)).2
  refine ⟨pending,found,?_⟩
  simp only at finished
  split at finished
  · cases finished
    refine ⟨?_,rfl,?_⟩
    · unfold Server.commitPending
      split
      · simp only
        split <;> rfl
      · rfl
    · obtain ⟨out,later,equal,_,_,fits⟩ := written_answered _
      cases equal
      exact fits.mpr True.intro
  · split at finished
    · rename_i part
      cases finished
      refine ⟨rfl,rfl,?_⟩
      obtain ⟨_,_,equal,_,_,fits⟩ := (smallError_answered (writeFailure_small bound part _) :
        Answered pending.id false True _)
      cases equal
      exact fits.mpr True.intro
    · cases finished

theorem reply_readable_iff (ops : List String) (identity instanceId : String) (pid : Nat) (parse : Bytes → ParsedHeader)
    (connection : Nat) (os : Os) (reached : serverMachine.run (.start ops identity instanceId pid) actions = some server)
    (split : splitPtydPayload payload = some (header,data)) (wellFormed : parse header = .envelope id request) :
    ((server.dispatch parse connection payload os).1 = [] ∧ (∃ pending, pending.id = id ∧
        (server.dispatch parse connection payload os).2.writes = server.writes ++ [pending]) ∨
      ∃ reply later, (server.dispatch parse connection payload os).1 = reply :: later ∧
        reply.message.replyTo = some id ∧ (isSubscribe request = false → later = []) ∧
        (record reply.message reply.data ≠ [] ↔ ReplyRoom server id request data os) ∧
        (ReplyRoom server id request data os → ∀ rest,
          (parseRecords maxIpcRecordBytes (record reply.message reply.data ++ rest)).1 =
            ptydPayload reply.message reply.data :: (parseRecords maxIpcRecordBytes rest).1 ∧
          splitPtydPayload (ptydPayload reply.message reply.data) = some (reply.message.header,reply.data))) ∧
    (∀ index ending reply next, server.finishWrite index ending = some (reply,next) →
      ∃ pending, server.writes[index]? = some pending ∧ next.writes = server.writes.eraseIdx index ∧
        reply.message.replyTo = some pending.id ∧ record reply.message reply.data ≠ []) := by
  have small : ServerSmall server := run_preserves serverStep_small (start_small _ _) reached
  refine ⟨?_,fun _ _ reply _ finished => finishWrite_answered small finished⟩
  have served : server.dispatch parse connection payload os = server.serve connection id request data os := by
    simp only [Server.dispatch,split,wellFormed]
  rw [served]
  suffices answered : _ ∨ Answered id (isSubscribe request) (ReplyRoom server id request data os)
      (server.serve connection id request data os).1 by
    refine answered.imp_right ?_
    intro ⟨reply,later,equal,named,rest,fits⟩
    refine ⟨reply,later,equal,named,rest,fits,?_⟩
    intro room more
    obtain ⟨parsed,parts⟩ := record_read (fits.mpr room) _
    exact ⟨congrArg Prod.fst parsed,parts⟩
  by_cases offered : opName request ∈ server.ops
  · rw [serve,if_pos offered]
    rcases perform_answered small request offered with ⟨none,later⟩ | answered
    · exact .inl ⟨by dsimp only; rw [none]; rfl,later⟩
    · exact .inr answered
  · rw [serve,if_neg offered]
    refine .inr (answered_congr unknownOp_answered (iff_of_true True.intro ?_))
    intro present
    exact absurd present offered

-- One live shell whose clients have each stored an input of the same size.
def quietOs : Os := ⟨.ok shellPair,none,true,.ok 100,none,0⟩

theorem reply_readable_unknown_session :
    ∃ reply later, ((Server.start ptydV1Ops "" "" 0).dispatch (fun _ => .envelope 1 (.kill "s")) 0 [0,0,0,0] quietOs).1 =
      reply :: later ∧ record reply.message reply.data ≠ [] := by
  have reached : serverMachine.run (.start ptydV1Ops "" "" 0) [] = some (.start ptydV1Ops "" "" 0) := rfl
  have split : splitPtydPayload [0,0,0,0] = some ([],[]) := by decide
  rcases (reply_readable_iff ptydV1Ops "" "" 0 (fun _ => .envelope 1 (.kill "s")) 0 quietOs reached split rfl).1 with
    ⟨empty,_⟩ | ⟨reply,later,equal,_,_,fits,_⟩
  · cases empty
  · refine ⟨reply,later,equal,fits.mpr ?_⟩
    intro _
    show UnknownRoom 1 "s"
    unfold UnknownRoom
    decide

def clientName (n : Nat) : String := String.ofList (List.replicate (n + 1) 'c')

theorem clientName_injective (equal : clientName n = clientName m) : n = m := by
  have lengths := congrArg (fun name => name.toList.length) equal
  simpa [clientName] using lengths

structure Flooded (server : Server) (data : Bytes) (count : Nat) : Prop where
  offered : server.ops = ptydV1Ops
  idle : server.writes = []
  shell : ∃ slot, server.sessions.lookup "shell" = some slot ∧ slot.inner.exit = none ∧
    slot.inner.pid.isNone = false ∧ slot.inner.master = some shellPair.master ∧
    size slot.inner.cursors = count ∧
    (∀ client cursor, slot.inner.cursors.lookup client = some cursor → cursor.data = data) ∧
    ∀ later, count ≤ later → slot.inner.cursors.lookup (clientName later) = none

def floodActions (data : Bytes) : Nat → List ServerAction
  | 0 => [.request 0 1 (.«open» "shell" 24 80 "") [] quietOs,.request 0 2 (.spawn "shell" ["/bin/sh"] [] "/") [] quietOs]
  | count + 1 => floodActions data count ++
      [.request 0 3 (.write "shell" (clientName count) 1) data quietOs,.finishWrite 0 .written]

theorem flood_start : ∃ server, serverMachine.run (.start ptydV1Ops "" "" 0) (floodActions data 0) = some server ∧
      Flooded server data 0 := by
  refine ⟨_,rfl,rfl,rfl,_,rfl,rfl,rfl,rfl,rfl,?_,?_⟩
  · intro client cursor found
    cases found
  · intro later _
    rfl

theorem flood_step (fits : data.length ≤ ptydMaxInputBytes) (room : count < ptydLogicalClientLimit)
    (flooded : Flooded server data count) :
    ∃ next, serverMachine.run server
        [.request 0 3 (.write "shell" (clientName count) 1) data quietOs,.finishWrite 0 .written] = some next ∧
      Flooded next data (count + 1) := by
  obtain ⟨offered,idle,slot,found,running,spawned,master,total,stored,free⟩ := flooded
  have absent := free _ (Nat.le_refl _)
  have named : (clientName count).isEmpty = false := by
    simp [clientName]
  have admitted : admitWrite ⟨clientName count,1,data⟩ = none := by
    unfold admitWrite
    simp only [named,Nat.not_lt.mpr fits,if_false]
    simp
  have passed : slot.inner.checkWrite ⟨clientName count,1,data⟩ = .proceed shellPair.master := by
    have fresh : checkCursor slot.inner.cursors ⟨clientName count,1,data⟩ = none := by
      refine checkCursor_none.mpr ⟨?_,?_⟩
      · simp [SessionInner.cursorSeq,absent]
      · intro _
        omega
    simp [checkWrite,running,spawned,fresh,master]
  have served : server.serve 0 3 (.write "shell" (clientName count) 1) data quietOs =
      ([],{server with writes := [⟨3,"shell",slot.serial,⟨clientName count,1,data⟩⟩]}) := by
    have listed : opName (.write "shell" (clientName count) 1) ∈ server.ops := by
      rw [offered]
      simp [opName,ptydV1Ops]
    have written : server.write 3 "shell" ⟨clientName count,1,data⟩ =
        (.ok [],{server with writes := [⟨3,"shell",slot.serial,⟨clientName count,1,data⟩⟩]}) := by
      simp only [Server.write,admitted,session,found,passed,idle,List.nil_append]
    have performed : server.perform 0 3 (.write "shell" (clientName count) 1) data quietOs =
        server.write 3 "shell" ⟨clientName count,1,data⟩ := rfl
    rw [serve,if_pos listed,performed,written]
    rfl
  let committed : Slot := {slot with inner := slot.inner.commitWrite ⟨clientName count,1,data⟩}
  refine ⟨{server with writes := [],sessions := server.sessions.insert "shell" committed},?_,offered,rfl,committed,?_,
    running,spawned,master,?_,?_,?_⟩
  · have first : serverMachine.step server (.request 0 3 (.write "shell" (clientName count) 1) data quietOs) =
        some {server with writes := [⟨3,"shell",slot.serial,⟨clientName count,1,data⟩⟩]} := by
      simp only [serverMachine,serverStep,served]
    have second : serverMachine.step {server with writes := [⟨3,"shell",slot.serial,⟨clientName count,1,data⟩⟩]}
        (.finishWrite 0 .written) =
        some {server with writes := [],sessions := server.sessions.insert "shell" committed} := by
      simp [serverMachine,serverStep,Server.finishWrite,Server.commitPending,found,committed]
    rw [run_cons first,run_cons second]
    rfl
  · simp
  · simp only [committed,commitWrite]
    rw [size_insert_absent absent,total]
  · exact Each.insert stored rfl
  · intro later beyond
    have differs : clientName later ≠ clientName count := by
      intro equal
      have same := clientName_injective equal
      omega
    simp only [committed,commitWrite]
    rw [AList.lookup_insert_ne differs]
    exact free _ (by omega)

theorem flood_run (fits : data.length ≤ ptydMaxInputBytes) (count : Nat) (room : count ≤ ptydLogicalClientLimit) :
    ∃ server, serverMachine.run (.start ptydV1Ops "" "" 0) (floodActions data count) = some server ∧
      Flooded server data count := by
  induction count with
  | zero => exact flood_start
  | succ count ih =>
    obtain ⟨_,ran,flooded⟩ := ih (by omega)
    obtain ⟨next,more,after⟩ := flood_step fits (by omega) flooded
    exact ⟨next,by rw [floodActions,run_append ran]; exact more,after⟩

-- Sixteen clients that each typed a megabyte: the list of cursors is an empty buffer.
theorem cursor_list_never_answered :
    ∃ actions server reply, serverMachine.run (.start ptydV1Ops "" "" 0) actions = some server ∧
      (server.dispatch (fun _ => .envelope 9 (.cursors "shell")) 0 [0,0,0,0] quietOs).1 = [reply] ∧
      record reply.message reply.data = [] := by
  obtain ⟨data,length⟩ : ∃ data : Bytes, data.length = ptydMaxInputBytes :=
    ⟨List.replicate ptydMaxInputBytes 0,List.length_replicate⟩
  obtain ⟨server,ran,flooded⟩ := flood_run (Nat.le_of_eq length) 16 (by decide)
  obtain ⟨offered,_,slot,found,_,_,_,total,stored,_⟩ := flooded
  have listed : opName (.cursors "shell") ∈ server.ops := by
    rw [offered]
    decide
  obtain ⟨reply,_,equal,_,single,fits⟩ := (cursors_answered 9 :
    Answered 9 false (SessionRoom server 9 "shell" (CursorRoom 9)) (responses 9 (server.cursors 9 "shell").1))
  have alone := single rfl
  subst alone
  refine ⟨floodActions _ 16,server,reply,ran,?_,?_⟩
  · have split : splitPtydPayload [0,0,0,0] = some ([],[]) := by decide
    simp only [Server.dispatch,split]
    rw [serve,if_pos listed]
    exact equal
  · by_contra readable
    have room := fits.mp readable
    simp only [SessionRoom,found] at room
    have heavy := List.card_nsmul_le_sum ((entries slot.inner.cursors).map fun entry => cursorBytes entry.1 entry.2)
      (2 * ptydMaxInputBytes) (by
        refine List.forall_mem_map.mpr fun _ mem => ?_
        have size := stored _ _ (entries_lookup mem)
        simp only [cursorBytes,size,length]
        omega)
    rw [length_map,entries_length,total,Nat.nsmul_eq_mul] at heavy
    have exceeds : maxIpcRecordBytes < 16 * (2 * ptydMaxInputBytes) := by decide
    unfold CursorRoom at room
    omega

end Coflux.Ptyd
