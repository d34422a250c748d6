import Coflux.Foundation.Machine
import Coflux.Ptyd.Session
import Coflux.Ptyd.Wire

namespace Coflux.Ptyd
open StepMachine Json
open List (append_nil length_append length_drop mem_append mem_cons mem_map mem_of_mem_take mem_singleton nil_append)

def replayRecordBytes : Nat := 64 * 1024
def readBufferBytes : Nat := 8192

structure Outgoing where
  message : PtydMessage
  data : Bytes

namespace SessionFile

def checkOffset (file : SessionFile) (fromOffset : Nat) : Option OpError :=
  if fromOffset > file.end then some ⟨"offset_ahead",s!"偏移 {fromOffset} 超过当前输出末尾 {file.end}"⟩
  else if fromOffset < file.start then some ⟨"offset_evicted",s!"偏移 {fromOffset} 早于 ring 起点 {file.start}"⟩
  else none

-- Each record moves the cursor, so the distance to the end is enough fuel.
def replayFuel (read : Nat → Option (Nat × Bytes)) (stop : Nat) : Nat → Nat → List (Nat × Bytes)
  | 0,_ => []
  | fuel + 1,cursor =>
    if cursor < stop then
      match read cursor with
      | some (offset,data) => if data = [] then [] else (offset,data) :: replayFuel read stop fuel (offset + data.length)
      | none => []
    else []

def replay (file : SessionFile) (limit cursor : Nat) : List (Nat × Bytes) :=
  replayFuel (fun offset => file.read offset limit) file.end (file.end - cursor) cursor

end SessionFile

namespace SessionInner

section
variable (st : SessionInner) (id : Nat) (sessionId : String)

def backlog (fromOffset : Nat) : List Outgoing :=
  (st.file.replay replayRecordBytes fromOffset).map fun piece => ⟨.data id sessionId piece.1,piece.2⟩

def exitNotice : List Outgoing :=
  match st.exit with
  | some exitCode => [⟨.exited id sessionId exitCode st.file.end,[]⟩]
  | none => []

def subscribeSends (fromOffset : Nat) : List Outgoing :=
  ⟨.ok id,[]⟩ :: st.backlog id sessionId fromOffset ++ st.exitNotice id sessionId

end

-- The connection takes the first accepted records. The Ok may be lost; a backlog record that is
-- refused ends the request and leaves the previous subscriber in place.
def subscribe (st : SessionInner) (sessionId : String) (subscriber : Subscriber) (fromOffset accepted : Nat) :
    List Outgoing × SessionInner :=
  let backlog := st.backlog subscriber.requestId sessionId fromOffset
  ((st.subscribeSends subscriber.requestId sessionId fromOffset).take accepted,
    if backlog = [] ∨ backlog.length < accepted then st.subscribed subscriber else st)

end SessionInner

-- A Subscribe request; its number in the list of requests is its ticket.
open SessionInner (exitNotice subscribeSends)

structure Subscription where
  (connection requestId fromOffset : Nat)

structure Queued where
  (connection ticket : Nat)
  out : Outgoing

-- Where the read loop of the session stands between two critical sections.
inductive Reader where
  | idle
  | reading (pending : Bytes)
  | sending (fromOffset : Nat) (piece : Bytes) (target : Subscriber) (pending : Bytes)
  | dropping (connection : Nat) (pending : Bytes)
  | ended
  | exiting (target : Option Subscriber) (exitCode : Int) (finalOffset : Nat)
  | done
deriving DecidableEq

-- The history is what the loop appended, queued what the connections took, in order.
structure FeedState where
  inner : SessionInner
  history : Bytes
  reader : Reader
  closed : List Nat
  subscriptions : List Subscription
  queued : List Queued

inductive FeedAction where
  | spawn (pid : Int) (now : Nat)
  | read (chunk : Bytes)
  | endOfOutput
  | append
  | send
  | drop
  | exit (exitCode : Int)
  | sendExited
  | subscribe (connection requestId fromOffset accepted : Nat)
  | close (connection : Nat)
  | dropSubscriptionsOf (connection : Nat)
  | kill
  | checkpoint (offset : Nat) (blob : Bytes)
  | resize (rows cols : UInt16)
  | commitWrite (request : WriteRequest)
  | remove

namespace FeedState

def start (inner : SessionInner) : FeedState := ⟨inner,[],.idle,[],[],[]⟩

section
variable (s : FeedState)

def queue (target : Subscriber) (out : Outgoing) : FeedState :=
  {s with queued := s.queued ++ [⟨target.connection,target.ticket,out⟩]}

def append (pending : Bytes) : FeedState :=
  if s.inner.killed then {s with reader := .ended}
  else if s.inner.file.writeBudget = 0 then s
  else
    let piece := pending.take s.inner.file.writeBudget
    let rest := pending.drop s.inner.file.writeBudget
    {s with
      inner := s.inner.taken pending
      history := s.history ++ piece
      reader := match s.inner.subscriber with
        | some target => .sending s.inner.file.end piece target rest
        | none => .reading rest}

def send (sessionId : String) (fromOffset : Nat) (piece : Bytes) (target : Subscriber)
    (pending : Bytes) : FeedState :=
  if target.connection ∈ s.closed then {s with reader := .dropping target.connection pending}
  else {s.queue target ⟨.data target.requestId sessionId fromOffset,piece⟩ with reader := .reading pending}

def exit (exitCode : Int) : FeedState :=
  {s with inner := s.inner.exited exitCode,reader := .exiting s.inner.subscriber exitCode s.inner.file.end}

def sendExited (sessionId : String) (target : Option Subscriber) (exitCode : Int)
    (finalOffset : Nat) : FeedState :=
  match target with
  | some target =>
    if target.connection ∈ s.closed then {s with reader := .done}
    else {s.queue target ⟨.exited target.requestId sessionId exitCode finalOffset,[]⟩ with reader := .done}
  | none => {s with reader := .done}

def subscribe (sessionId : String) (request : Subscription) (accepted : Nat) : FeedState :=
  match s.inner.file.checkOffset request.fromOffset with
  | some _ => s
  | none =>
    let target : Subscriber := ⟨request.requestId,request.connection,s.subscriptions.length⟩
    let sent := s.inner.subscribe sessionId target request.fromOffset accepted
    {s with
      inner := sent.2
      closed := if sent.1.length < (s.inner.subscribeSends request.requestId sessionId request.fromOffset).length
        then request.connection :: s.closed else s.closed
      subscriptions := s.subscriptions ++ [request]
      queued := s.queued ++ sent.1.map fun out => ⟨request.connection,target.ticket,out⟩}

end

end FeedState

-- The check of remove was an earlier critical section, so its second half is not guarded here.
def feedStep (sessionId : String) (s : FeedState) : FeedAction → Option FeedState
  | .spawn pid now =>
    if s.inner.pid = none ∧ s.inner.slave.isSome ∧ s.reader = .idle then
      some {s with inner := s.inner.spawned pid now,reader := .reading []}
    else none
  | .read chunk =>
    if s.reader = .reading [] ∧ chunk.length ≤ readBufferBytes then some {s with reader := .reading chunk} else none
  | .endOfOutput => if s.reader = .reading [] then some {s with reader := .ended} else none
  | .append =>
    match s.reader with
    | .reading (byte :: rest) => some (s.append (byte :: rest))
    | _ => none
  | .send =>
    match s.reader with
    | .sending fromOffset piece target pending => some (s.send sessionId fromOffset piece target pending)
    | _ => none
  | .drop =>
    match s.reader with
    | .dropping connection pending =>
      some {s with inner := s.inner.dropSubscriptionsOf connection,reader := .reading pending}
    | _ => none
  | .exit exitCode => if s.reader = .ended then some (s.exit exitCode) else none
  | .sendExited =>
    match s.reader with
    | .exiting target exitCode finalOffset => some (s.sendExited sessionId target exitCode finalOffset)
    | _ => none
  | .subscribe connection requestId fromOffset accepted =>
    if connection ∈ s.closed ∧ accepted ≠ 0 then none
    else some (s.subscribe sessionId ⟨connection,requestId,fromOffset⟩ accepted)
  | .close connection => some {s with closed := connection :: s.closed}
  | .dropSubscriptionsOf connection => some {s with inner := s.inner.dropSubscriptionsOf connection}
  | .kill => some {s with inner := s.inner.kill}
  | .checkpoint offset blob => some {s with inner := s.inner.checkpointed offset blob}
  | .resize rows cols => some {s with inner := s.inner.resized rows cols}
  | .commitWrite request => some {s with inner := s.inner.commitWrite request}
  | .remove => some {s with inner := s.inner.removed}

def feedMachine (sessionId : String) : Machine FeedState FeedAction := ⟨feedStep sessionId⟩

def bytesOf (outs : List Outgoing) : Bytes := outs.flatMap Outgoing.data

-- Where a record of one request must stand, given those before it.
def InPlace (fromOffset : Nat) (before : List Outgoing) (out : Outgoing) : Prop :=
  match out.message with
  | .ok _ => out.data = []
  | .data _ _ offset => offset = fromOffset + (bytesOf before).length
  | .exited _ _ _ finalOffset => out.data = [] ∧ finalOffset = fromOffset + (bytesOf before).length
  | _ => False

def Outgoing.isExited (out : Outgoing) : Bool :=
  match out.message with
  | .exited _ _ _ _ => true
  | _ => false

-- The bytes are the output from the offset asked for, and Exited ends the stream.
structure StreamExact (history : Bytes) (fromOffset : Nat) (outs : List Outgoing) : Prop where
  placed : ∀ before out after, outs = before ++ out :: after → InPlace fromOffset before out
  last : ∀ before out after, outs = before ++ out :: after → out.isExited = true → after = []
  within : fromOffset + (bytesOf outs).length ≤ history.length
  bytes : bytesOf outs = (history.drop fromOffset).take (bytesOf outs).length

def StillOpen (outs : List Outgoing) : Prop := ∀ out ∈ outs, out.isExited = false

@[simp] theorem bytesOf_append (left right : List Outgoing) : bytesOf (left ++ right) = bytesOf left ++ bytesOf right := by
  simp [bytesOf]

@[simp] theorem bytesOf_single (out : Outgoing) : bytesOf [out] = out.data := by
  simp [bytesOf]

theorem streamExact_nil (inside : fromOffset ≤ history.length) : StreamExact history fromOffset [] := by
  refine ⟨?_,?_,by simpa [bytesOf] using inside,by simp [bytesOf]⟩
  · intro before out after equal
    simp at equal
  · intro before out after equal
    simp at equal

theorem streamExact_extends (exact : StreamExact history fromOffset outs) :
    StreamExact (history ++ more) fromOffset outs := by
  have within := exact.within
  refine ⟨exact.placed,exact.last,by simp; omega,?_⟩
  rw [List.drop_append_of_le_length (by omega),List.take_append_of_le_length (by simp; omega)]
  exact exact.bytes

theorem split_snoc (equal : outs ++ [last] = before ++ out :: after) :
    before = outs ∧ out = last ∧ after = [] ∨ ∃ front, outs = before ++ out :: front := by
  rcases List.eq_nil_or_concat after with rfl | ⟨front,final,rfl⟩
  · obtain ⟨rfl,same⟩ := List.append_inj' equal (by simp)
    cases same
    exact .inl ⟨rfl,rfl,rfl⟩
  · have shifted : outs ++ [last] = (before ++ out :: front) ++ [final] := by simp [equal]
    exact .inr ⟨front,(List.append_inj' shifted (by simp)).1⟩

section
variable (exact : StreamExact history fromOffset outs)
include exact

theorem streamExact_snoc (stillOpen : StillOpen outs) (placed : InPlace fromOffset outs out)
    (within : fromOffset + (bytesOf outs).length + out.data.length ≤ history.length)
    (piece : out.data = (history.drop (fromOffset + (bytesOf outs).length)).take out.data.length) :
    StreamExact history fromOffset (outs ++ [out]) := by
  refine ⟨?_,?_,by simp; omega,?_⟩
  · intro before other after equal
    rcases split_snoc equal with ⟨rfl,rfl,_⟩ | ⟨front,start⟩
    · exact placed
    · exact exact.placed before other front start
  · intro before other after equal exited
    rcases split_snoc equal with ⟨_,_,final⟩ | ⟨_,start⟩
    · exact final
    · rw [stillOpen other (by rw [start]; simp)] at exited
      cases exited
  · simp only [bytesOf_append,bytesOf_single,length_append,List.take_add,List.drop_drop]
    rw [← exact.bytes,← piece]

theorem streamExact_data (stillOpen : StillOpen outs) (place : offset = fromOffset + (bytesOf outs).length)
    (within : offset + piece.length ≤ history.length) (slice : piece = (history.drop offset).take piece.length) :
    StreamExact history fromOffset (outs ++ [⟨.data requestId sessionId offset,piece⟩]) := by
  subst place
  exact streamExact_snoc exact stillOpen rfl within slice

theorem streamExact_exited (stillOpen : StillOpen outs) (place : finalOffset = fromOffset + (bytesOf outs).length) :
    StreamExact history fromOffset (outs ++ [⟨.exited requestId sessionId exitCode finalOffset,[]⟩]) := by
  have within := exact.within
  exact streamExact_snoc exact stillOpen ⟨rfl,place⟩ (by simpa using within) (by simp)

theorem streamExact_prefix (part : got <+: outs) : StreamExact history fromOffset got := by
  obtain ⟨tail,rfl⟩ := part
  have within := exact.within
  have bytes := exact.bytes
  simp only [bytesOf_append,length_append] at within bytes
  refine ⟨?_,?_,by omega,?_⟩
  · intro before out after equal
    exact exact.placed before out (after ++ tail) (by simp [equal])
  · intro before out after equal exited
    exact (List.append_eq_nil_iff.mp (exact.last before out (after ++ tail) (by simp [equal]) exited)).1
  · have cut := congrArg (List.take (bytesOf got).length) bytes
    rw [List.take_left,List.take_take,Nat.min_eq_left (by omega)] at cut
    exact cut

end

theorem stillOpen_snoc (stillOpen : StillOpen outs) (other : out.isExited = false) : StillOpen (outs ++ [out]) := by
  intro each mem
  rcases mem_append.mp mem with old | new
  · exact stillOpen _ old
  · rw [mem_singleton.mp new]
    exact other

def Pieces (history : Bytes) (limit : Nat) : Nat → List (Nat × Bytes) → Prop
  | next,[] => next = history.length
  | next,piece :: rest => piece.1 = next ∧ piece.2.length ≤ limit ∧ next + piece.2.length ≤ history.length ∧
      piece.2 = (history.drop next).take piece.2.length ∧ Pieces history limit (next + piece.2.length) rest

theorem replayFuel_pieces {read : Nat → Option (Nat × Bytes)} (positive : 0 < limit)
    (reads : ∀ offset, low ≤ offset → offset ≤ history.length →
      read offset = some (offset,(history.drop offset).take (min history.length (offset + limit) - offset)))
    (cursor : Nat) (above : low ≤ cursor) (below : cursor ≤ history.length)
    (enough : history.length - cursor ≤ fuel) :
    Pieces history limit cursor (SessionFile.replayFuel read history.length fuel cursor) := by
  induction fuel generalizing cursor with
  | zero =>
    simp only [SessionFile.replayFuel,Pieces]
    omega
  | succ fuel ih =>
    simp only [SessionFile.replayFuel]
    split
    · have length : ((history.drop cursor).take (min history.length (cursor + limit) - cursor)).length =
          min history.length (cursor + limit) - cursor := by
        rw [List.length_take,length_drop]
        omega
      have filled : (history.drop cursor).take (min history.length (cursor + limit) - cursor) ≠ [] := by
        rw [← List.length_pos_iff,length]
        omega
      rw [reads cursor above below]
      simp only [if_neg filled]
      refine ⟨rfl,?_,?_,by rw [length],ih _ ?_ ?_ ?_⟩
      all_goals
        simp only [length]
        omega
    · simp only [Pieces]
      omega

theorem replay_pieces {file : SessionFile} (valid : Represents file history) (positive : 0 < limit)
    (above : file.start ≤ cursor) (below : cursor ≤ file.end) : Pieces history limit cursor (file.replay limit cursor) := by
  have ends := valid.ends
  unfold SessionFile.replay
  rw [ends] at below ⊢
  refine replayFuel_pieces positive ?_ cursor above below (Nat.le_refl _)
  intro offset inside behind
  rw [read_exact valid,if_pos ⟨inside,ends ▸ behind⟩,ends]

theorem streamExact_backlog (exact : StreamExact history fromOffset outs)
    (stillOpen : StillOpen outs) (chain : Pieces history limit (fromOffset + (bytesOf outs).length) pieces) :
    let all := outs ++ pieces.map fun piece => ⟨.data requestId sessionId piece.1,piece.2⟩
    StreamExact history fromOffset all ∧ StillOpen all ∧ fromOffset + (bytesOf all).length = history.length := by
  induction pieces generalizing outs with
  | nil =>
    simp only [List.map_nil,append_nil]
    exact ⟨exact,stillOpen,chain⟩
  | cons piece rest ih =>
    obtain ⟨place,_,within,slice,more⟩ := chain
    have longer : StreamExact history fromOffset (outs ++ [⟨.data requestId sessionId piece.1,piece.2⟩]) :=
      streamExact_data exact stillOpen place (place ▸ within) (place ▸ slice)
    have next := ih longer (stillOpen_snoc stillOpen rfl) (by simpa [Nat.add_assoc] using more)
    simpa using next

def sentOf (queued : List Queued) (ticket : Nat) : List Outgoing :=
  (queued.filter fun entry => entry.ticket = ticket).map Queued.out

theorem sentOf_append (right : List Queued) : sentOf (left ++ right) ticket = sentOf left ticket ++ sentOf right ticket := by
  simp [sentOf]

theorem sentOf_own {connection : Nat} : sentOf (outs.map fun out => ⟨connection,ticket,out⟩) ticket = outs := by
  induction outs with
  | nil => rfl
  | cons out rest ih =>
    simp only [sentOf] at ih
    simp [sentOf,ih]

theorem sentOf_foreign {ticket other : Nat} (outs : List Outgoing) (differs : ticket ≠ other) :
    sentOf (outs.map fun out => ⟨connection,ticket,out⟩) other = [] := by
  induction outs with
  | nil => rfl
  | cons out rest ih =>
    simp only [sentOf] at ih
    simp [sentOf,differs,ih]

section
variable (s : FeedState)

def AtOffset (target : Subscriber) (offset : Nat) : Prop :=
  ∃ request, s.subscriptions[target.ticket]? = some request ∧ request.connection = target.connection ∧
    offset = request.fromOffset + (bytesOf (sentOf s.queued target.ticket)).length

def OpenFor (target : Subscriber) : Prop := StillOpen (sentOf s.queued target.ticket)

def Caught : Prop :=
  ∀ target, s.inner.subscriber = some target → AtOffset s target s.history.length

def Live : Prop :=
  s.inner.exit = none ∧ Caught s ∧ ∀ target, s.inner.subscriber = some target → OpenFor s target

-- Everything appended was given, except the piece in the loop's hand and on a dropped connection.
def ReaderGood : Reader → Prop
  | .idle => Live s
  | .reading _ => Live s
  | .sending fromOffset piece target _ =>
    s.inner.exit = none ∧ fromOffset + piece.length = s.history.length ∧ piece = s.history.drop fromOffset ∧
    AtOffset s target fromOffset ∧ OpenFor s target ∧
    ∀ other, s.inner.subscriber = some other → OpenFor s other ∧
      ∃ offset, AtOffset s other offset ∧ (other.ticket = target.ticket ∨ offset = s.history.length)
  | .dropping connection _ =>
    s.inner.exit = none ∧ ∀ other, s.inner.subscriber = some other → OpenFor s other ∧
      ∃ offset, AtOffset s other offset ∧ (other.connection = connection ∨ offset = s.history.length)
  | .ended => Live s
  | .exiting target _ finalOffset =>
    finalOffset = s.history.length ∧ Caught s ∧
    ∀ waiting, target = some waiting → AtOffset s waiting finalOffset ∧ OpenFor s waiting
  | .done => Caught s

end

def Reader.inHand : Reader → Bytes
  | .reading pending => pending
  | .sending _ piece _ pending => piece ++ pending
  | .dropping _ pending => pending
  | _ => []

def Slim (sessionId : String) (out : Outgoing) : Prop :=
  out.data.length ≤ replayRecordBytes ∧
  match out.message with
  | .ok _ => True
  | .data _ named _ => named = sessionId
  | .exited _ named _ _ => named = sessionId
  | _ => False

structure FeedInvariant (sessionId : String) (s : FeedState) : Prop where
  represents : Represents s.inner.file s.history
  addressed : ∀ entry ∈ s.queued, ∃ request, s.subscriptions[entry.ticket]? = some request ∧
    request.connection = entry.connection
  slim : ∀ entry ∈ s.queued, Slim sessionId entry.out
  exact : ∀ ticket request, s.subscriptions[ticket]? = some request →
    StreamExact s.history request.fromOffset (sentOf s.queued ticket)
  small : s.reader.inHand.length ≤ readBufferBytes
  reader : ReaderGood s s.reader

theorem readerGood_transport (good : ReaderGood s reader) (exit : next.inner.exit = s.inner.exit)
    (history : next.history = s.history)
    (kept : ∀ target offset, AtOffset s target offset → AtOffset next target offset ∧
      sentOf next.queued target.ticket = sentOf s.queued target.ticket)
    (current : ∀ other, next.inner.subscriber = some other → s.inner.subscriber = some other ∨
      AtOffset next other s.history.length ∧ (s.inner.exit = none → OpenFor next other)) :
    ReaderGood next reader := by
  have stays : ∀ target offset, AtOffset s target offset → OpenFor s target → OpenFor next target := by
    intro target offset place isOpen
    unfold OpenFor
    rw [(kept target offset place).2]
    exact isOpen
  have caught : Caught s → Caught next := by
    intro caught other present
    rw [history]
    rcases current other present with old | ⟨place,_⟩
    · exact (kept other _ (caught other old)).1
    · exact place
  have live : Live s → Live next := by
    intro ⟨running,reached,isOpen⟩
    refine ⟨exit.trans running,caught reached,?_⟩
    intro other present
    rcases current other present with old | ⟨_,fresh⟩
    · exact stays other _ (reached other old) (isOpen other old)
    · exact fresh running
  cases reader with
  | idle | reading | ended => exact live good
  | done => exact caught good
  | exiting waiting exitCode finalOffset =>
    obtain ⟨final,reached,pending⟩ := good
    refine ⟨by rw [history]; exact final,caught reached,?_⟩
    intro target equal
    obtain ⟨place,isOpen⟩ := pending target equal
    exact ⟨(kept _ _ place).1,stays _ _ place isOpen⟩
  | sending fromOffset piece target pending =>
    obtain ⟨running,ends,slice,place,isOpen,others⟩ := good
    refine ⟨exit.trans running,by rw [history]; exact ends,by rw [history]; exact slice,(kept _ _ place).1,
      stays _ _ place isOpen,?_⟩
    intro other present
    rw [history]
    rcases current other present with old | ⟨fresh,freshOpen⟩
    · obtain ⟨otherOpen,offset,otherPlace,which⟩ := others other old
      exact ⟨stays _ _ otherPlace otherOpen,offset,(kept _ _ otherPlace).1,which⟩
    · exact ⟨freshOpen running,_,fresh,.inr rfl⟩
  | dropping connection pending =>
    obtain ⟨running,others⟩ := good
    refine ⟨exit.trans running,?_⟩
    intro other present
    rw [history]
    rcases current other present with old | ⟨fresh,freshOpen⟩
    · obtain ⟨otherOpen,offset,otherPlace,which⟩ := others other old
      exact ⟨stays _ _ otherPlace otherOpen,offset,(kept _ _ otherPlace).1,which⟩
    · exact ⟨freshOpen running,_,fresh,.inr rfl⟩

theorem inner_invariant {inner : SessionInner} (valid : FeedInvariant sessionId s)
    (file : Represents inner.file s.history) (exit : inner.exit = s.inner.exit)
    (subscriber : ∀ other, inner.subscriber = some other → s.inner.subscriber = some other) :
    FeedInvariant sessionId {s with inner := inner} := by
  refine {valid with represents := file,reader := ?_}
  exact readerGood_transport valid.reader exit rfl (fun _ _ place => ⟨place,rfl⟩)
    (fun other present => .inl (subscriber other present))

theorem dropSubscriptionsOf_parts {st : SessionInner} (present : (st.dropSubscriptionsOf connection).subscriber = some other) :
    st.subscriber = some other ∧ other.connection ≠ connection := by
  unfold SessionInner.dropSubscriptionsOf at present
  split at present
  · rename_i found
    split at present
    · cases present
    · rename_i differs
      rw [found] at present
      cases present
      exact ⟨found,differs⟩
  · rename_i missing
    rw [missing] at present
    cases present

theorem dropSubscriptionsOf_rest (st : SessionInner) {connection : Nat} :
    (st.dropSubscriptionsOf connection).file = st.file ∧ (st.dropSubscriptionsOf connection).exit = st.exit := by
  unfold SessionInner.dropSubscriptionsOf
  split
  · split <;> exact ⟨rfl,rfl⟩
  · exact ⟨rfl,rfl⟩

theorem append_invariant (valid : FeedInvariant sessionId s) (reading : s.reader = .reading pending) :
    FeedInvariant sessionId (s.append pending) := by
  have good := valid.reader
  have small := valid.small
  rw [reading] at good small
  obtain ⟨running,caught,isOpen⟩ := good
  unfold FeedState.append
  split
  · exact ⟨valid.represents,valid.addressed,valid.slim,valid.exact,Nat.zero_le _,running,caught,isOpen⟩
  split
  · exact valid
  have ends := valid.represents.ends
  have represents : Represents (s.inner.taken pending).file (s.history ++ pending.take s.inner.file.writeBudget) :=
    append_represents valid.represents (List.length_take_le _ _)
  have exact : ∀ ticket request, s.subscriptions[ticket]? = some request →
      StreamExact (s.history ++ pending.take s.inner.file.writeBudget) request.fromOffset (sentOf _ ticket) :=
    fun _ _ found => streamExact_extends (valid.exact _ _ found)
  split
  · rename_i target present
    refine ⟨represents,valid.addressed,valid.slim,exact,?_,running,?_,?_,?_,isOpen target present,?_⟩
    · simpa [Reader.inHand] using small
    · simp [ends]
    · simp [ends]
    · rw [ends]
      exact caught target present
    · intro other current
      have same : other = target := Option.some.inj (current.symm.trans present)
      subst same
      exact ⟨isOpen other current,_,caught other current,.inl rfl⟩
  · rename_i missing
    refine ⟨represents,valid.addressed,valid.slim,exact,?_,running,?_,?_⟩
    · simp only [Reader.inHand,length_drop] at small ⊢
      omega
    · intro other current
      have absent : s.inner.subscriber = some other := current
      rw [missing] at absent
      cases absent
    · intro other current
      have absent : s.inner.subscriber = some other := current
      rw [missing] at absent
      cases absent

theorem queue_same (s : FeedState) (target : Subscriber) (out : Outgoing) :
    sentOf (s.queue target out).queued target.ticket = sentOf s.queued target.ticket ++ [out] := by
  simp [FeedState.queue,sentOf]

theorem queue_other (s : FeedState) (out : Outgoing) (differs : target.ticket ≠ ticket) :
    sentOf (s.queue target out).queued ticket = sentOf s.queued ticket := by
  simp [FeedState.queue,sentOf,differs]

section
variable (valid : FeedInvariant sessionId s)
include valid

theorem queue_invariant (place : AtOffset s target offset) (slim : Slim sessionId out)
    (longer : ∀ request, s.subscriptions[target.ticket]? = some request →
      StreamExact s.history request.fromOffset (sentOf s.queued target.ticket ++ [out]))
    (small : reader.inHand.length ≤ readBufferBytes)
    (good : ReaderGood {s.queue target out with reader := reader} reader) :
    FeedInvariant sessionId {s.queue target out with reader := reader} := by
  refine ⟨valid.represents,?_,?_,?_,small,good⟩
  · intro entry mem
    rcases mem_append.mp mem with old | new
    · exact valid.addressed _ old
    · obtain ⟨request,found,connection,_⟩ := place
      rw [mem_singleton.mp new]
      exact ⟨request,found,connection⟩
  · intro entry mem
    rcases mem_append.mp mem with old | new
    · exact valid.slim _ old
    · rw [mem_singleton.mp new]
      exact slim
  · intro ticket request found
    by_cases same : target.ticket = ticket
    · subst same
      have sent := queue_same s target out
      simp only at sent ⊢
      rw [sent]
      exact longer _ found
    · have sent := queue_other s out same
      simp only at sent ⊢
      rw [sent]
      exact valid.exact _ _ found

theorem send_invariant (sending : s.reader = .sending fromOffset piece target pending) :
    FeedInvariant sessionId (s.send sessionId fromOffset piece target pending) := by
  have good := valid.reader
  have small := valid.small
  rw [sending] at good small
  simp only [Reader.inHand,length_append] at small
  obtain ⟨running,_,slice,place,isOpen,others⟩ := good
  obtain ⟨request,registered,connection,position⟩ := place
  unfold FeedState.send
  split
  · refine ⟨valid.represents,valid.addressed,valid.slim,valid.exact,?_,running,?_⟩
    · simp only [Reader.inHand]
      omega
    · intro other present
      obtain ⟨otherOpen,offset,otherPlace,which⟩ := others other present
      refine ⟨otherOpen,offset,otherPlace,?_⟩
      rcases which with same | reached
      · -- A ticket belongs to one request, and so to one connection.
        obtain ⟨otherRequest,found,otherConnection,_⟩ := otherPlace
        rw [same,registered] at found
        cases found
        exact .inl (otherConnection.symm.trans connection)
      · exact .inr reached
  · have slim : Slim sessionId ⟨.data target.requestId sessionId fromOffset,piece⟩ := by
      refine ⟨?_,rfl⟩
      have bound : readBufferBytes ≤ replayRecordBytes := by decide
      simp only
      omega
    refine queue_invariant valid ⟨request,registered,connection,position⟩ slim ?_ ?_ ⟨running,?_,?_⟩
    · intro known found
      rw [registered] at found
      cases found
      refine streamExact_data (valid.exact _ _ registered) isOpen position (by omega) ?_
      rw [List.take_of_length_le (by rw [length_drop]; omega)]
      exact slice
    · simp only [Reader.inHand]
      omega
    · intro other present
      obtain ⟨_,_,otherPlace,which⟩ := others other present
      obtain ⟨otherRequest,found,otherConnection,otherPosition⟩ := otherPlace
      refine ⟨otherRequest,found,otherConnection,?_⟩
      simp only
      by_cases same : target.ticket = other.ticket
      · rw [← same,registered] at found
        cases found
        rw [← same,queue_same,bytesOf_append,bytesOf_single,length_append]
        simp only [FeedState.queue]
        omega
      · rw [queue_other s _ same]
        simp only [FeedState.queue]
        rcases which with equal | reached
        · exact absurd equal.symm same
        · rw [← reached]
          exact otherPosition
    · intro other present
      obtain ⟨otherOpen,_⟩ := others other present
      unfold OpenFor
      simp only
      by_cases same : target.ticket = other.ticket
      · rw [← same,queue_same]
        exact stillOpen_snoc isOpen rfl
      · rw [queue_other s _ same]
        exact otherOpen

theorem drop_invariant (dropping : s.reader = .dropping connection pending) :
    FeedInvariant sessionId {s with inner := s.inner.dropSubscriptionsOf connection,reader := .reading pending} := by
  have good := valid.reader
  have small := valid.small
  rw [dropping] at good small
  obtain ⟨running,others⟩ := good
  obtain ⟨file,exit⟩ := dropSubscriptionsOf_rest _
  refine ⟨by simp only [file]; exact valid.represents,valid.addressed,valid.slim,valid.exact,small,exit.trans running,?_,?_⟩
  · intro other present
    obtain ⟨before,differs⟩ := dropSubscriptionsOf_parts present
    obtain ⟨_,_,place,which⟩ := others other before
    rcases which with same | reached
    · exact absurd same differs
    · exact reached ▸ place
  · intro other present
    exact (others other (dropSubscriptionsOf_parts present).1).1

theorem exit_invariant (ended : s.reader = .ended) : FeedInvariant sessionId (s.exit exitCode) := by
  have good := valid.reader
  rw [ended] at good
  obtain ⟨_,caught,isOpen⟩ := good
  refine ⟨valid.represents,valid.addressed,valid.slim,valid.exact,Nat.zero_le _,valid.represents.ends,caught,?_⟩
  intro target present
  rw [valid.represents.ends]
  exact ⟨caught target present,isOpen target present⟩

theorem sendExited_invariant (exiting : s.reader = .exiting waiting exitCode finalOffset) :
    FeedInvariant sessionId (s.sendExited sessionId waiting exitCode finalOffset) := by
  have good := valid.reader
  rw [exiting] at good
  obtain ⟨_,caught,pending⟩ := good
  have finished : FeedInvariant sessionId {s with reader := .done} :=
    {valid with small := Nat.zero_le _,reader := caught}
  unfold FeedState.sendExited
  split
  · rename_i target
    obtain ⟨place,isOpen⟩ := pending target rfl
    split
    · exact finished
    · refine queue_invariant valid place ⟨Nat.zero_le _,rfl⟩ ?_ (Nat.zero_le _) ?_
      · intro request found
        obtain ⟨_,registered,_,position⟩ := place
        rw [registered] at found
        cases found
        exact streamExact_exited (valid.exact _ _ registered) isOpen position
      · intro other present
        obtain ⟨request,found,connection,position⟩ := caught other present
        refine ⟨request,found,connection,?_⟩
        simp only
        by_cases same : target.ticket = other.ticket
        · rw [← same] at position ⊢
          rw [queue_same,bytesOf_append,bytesOf_single,append_nil]
          exact position
        · rw [queue_other s _ same]
          exact position
  · exact finished

end

theorem checkOffset_inside {file : SessionFile} (above : file.start ≤ offset) (below : offset ≤ file.end) :
    file.checkOffset offset = none := by
  unfold SessionFile.checkOffset
  rw [if_neg (Nat.not_lt.mpr below),if_neg (Nat.not_lt.mpr above)]

theorem checkOffset_none {file : SessionFile} (passed : file.checkOffset offset = none) :
    file.start ≤ offset ∧ offset ≤ file.end := by
  unfold SessionFile.checkOffset at passed
  split at passed
  · cases passed
  · rename_i notAhead
    split at passed
    · cases passed
    · rename_i notEvicted
      exact ⟨Nat.le_of_not_lt notEvicted,Nat.le_of_not_lt notAhead⟩

theorem pieces_small (chain : Pieces history limit cursor pieces) : ∀ piece ∈ pieces, piece.2.length ≤ limit := by
  induction pieces generalizing cursor with
  | nil => simp
  | cons first rest ih =>
    obtain ⟨_,small,_,_,more⟩ := chain
    exact List.forall_mem_cons.mpr ⟨small,ih more⟩

theorem bytesOf_notices (empty : ∀ out ∈ outs, out.data = []) : bytesOf outs = [] := by
  simpa [bytesOf,List.flatMap_eq_nil_iff] using empty

variable {st : SessionInner}

theorem exitNotice_data (st : SessionInner) (requestId : Nat) (sessionId : String) :
    ∀ out ∈ st.exitNotice requestId sessionId, out.data = [] ∧ Slim sessionId out := by
  unfold exitNotice
  split
  · intro out mem
    rw [mem_singleton.mp mem]
    exact ⟨rfl,Nat.zero_le _,rfl⟩
  · intro out mem
    cases mem

theorem subscribeSends_stream {requestId : Nat} (represents : Represents st.file history)
    (above : st.file.start ≤ fromOffset) (below : fromOffset ≤ st.file.end) :
    StreamExact history fromOffset (st.subscribeSends requestId sessionId fromOffset) ∧
    fromOffset + (bytesOf (st.backlog requestId sessionId fromOffset)).length = history.length ∧
    (st.exit = none → StillOpen (st.subscribeSends requestId sessionId fromOffset)) ∧
    ∀ out ∈ st.subscribeSends requestId sessionId fromOffset, Slim sessionId out := by
  have ends := represents.ends
  have chain := replay_pieces represents (by decide : 0 < replayRecordBytes) above below
  have first : StreamExact history fromOffset [⟨.ok requestId,[]⟩] :=
    streamExact_snoc (streamExact_nil (ends ▸ below)) (fun _ mem => nomatch mem) rfl
      (by simpa [bytesOf] using ends ▸ below) (by simp)
  obtain ⟨exact,isOpen,position⟩ := streamExact_backlog first
    (fun out mem => by rw [mem_singleton.mp mem]; rfl) (by simpa using chain)
  have bytes : bytesOf ([⟨.ok requestId,[]⟩] ++ st.backlog requestId sessionId fromOffset) =
      bytesOf (st.backlog requestId sessionId fromOffset) := by simp only [bytesOf_append,bytesOf_single,nil_append]
  have reached : fromOffset + (bytesOf (st.backlog requestId sessionId fromOffset)).length = history.length := by
    rw [← bytes]
    exact position
  refine ⟨?_,reached,?_,?_⟩
  · unfold subscribeSends exitNotice
    split
    · refine streamExact_exited exact isOpen ?_
      rw [ends]
      exact position.symm
    · rw [append_nil]
      exact exact
  · intro running
    simp only [subscribeSends,exitNotice,running,append_nil]
    exact isOpen
  · intro out mem
    rcases mem_append.mp mem with front | notice
    · rcases mem_cons.mp front with rfl | piece
      · exact ⟨Nat.zero_le _,True.intro⟩
      · obtain ⟨_,present,rfl⟩ := mem_map.mp piece
        exact ⟨pieces_small chain _ present,rfl⟩
    · exact (exitNotice_data st _ _ out notice).2

theorem installed_bytes {requestId : Nat} (installed : st.backlog requestId sessionId fromOffset = [] ∨
      (st.backlog requestId sessionId fromOffset).length < accepted) :
    bytesOf ((st.subscribeSends requestId sessionId fromOffset).take accepted) =
      bytesOf (st.backlog requestId sessionId fromOffset) := by
  have notices := fun out mem => (exitNotice_data st requestId sessionId out mem).1
  rcases installed with empty | all
  · rw [empty]
    refine bytesOf_notices ?_
    intro out mem
    have sent := mem_of_mem_take mem
    simp only [subscribeSends,empty,List.cons_append,nil_append] at sent
    rcases mem_cons.mp sent with rfl | notice
    · rfl
    · exact notices out notice
  · rw [subscribeSends,List.take_append,List.take_of_length_le (by simp; omega),bytesOf_append]
    rw [bytesOf_notices fun out mem => notices out (mem_of_mem_take mem)]
    simp [bytesOf]

theorem subscribe_invariant (valid : FeedInvariant sessionId s) :
    FeedInvariant sessionId (s.subscribe sessionId request accepted) := by
  unfold FeedState.subscribe
  split
  · exact valid
  rename_i passed
  obtain ⟨above,below⟩ := checkOffset_none passed
  obtain ⟨stream,reached,isOpen,slim⟩ :=
    subscribeSends_stream valid.represents above below
  -- No record carries the new ticket yet, and no older ticket gets one now.
  have fresh : sentOf s.queued s.subscriptions.length = [] := by
    simp only [sentOf,List.map_eq_nil_iff,List.filter_eq_nil_iff,decide_eq_true_eq]
    intro entry mem same
    obtain ⟨known,found,_⟩ := valid.addressed _ mem
    rw [same,List.getElem?_eq_none (Nat.le_refl _)] at found
    cases found
  have others : ∀ ticket outs, ticket < s.subscriptions.length →
      sentOf (s.queued ++ List.map (fun out => ⟨request.connection,s.subscriptions.length,out⟩) outs) ticket =
        sentOf s.queued ticket := by
    intro ticket outs older
    rw [sentOf_append,sentOf_foreign _ (by omega),append_nil]
  have own : ∀ outs, sentOf (s.queued ++ List.map (fun out => ⟨request.connection,s.subscriptions.length,out⟩) outs)
      s.subscriptions.length = outs := by
    intro outs
    rw [sentOf_append,fresh,sentOf_own,nil_append]
  have older : ∀ ticket known, s.subscriptions[ticket]? = some known →
      ticket < s.subscriptions.length ∧ (s.subscriptions ++ [request])[ticket]? = some known := by
    intro ticket known found
    have inside := (List.getElem?_eq_some_iff.mp found).1
    exact ⟨inside,by rw [List.getElem?_append_left inside]; exact found⟩
  have newest : (s.subscriptions ++ [request])[s.subscriptions.length]? = some request := by simp
  refine ⟨?_,?_,?_,?_,valid.small,readerGood_transport valid.reader ?_ rfl ?_ ?_⟩
  · simp only [SessionInner.subscribe]
    split <;> exact valid.represents
  · intro entry mem
    rcases mem_append.mp mem with old | new
    · obtain ⟨known,found,connection⟩ := valid.addressed _ old
      exact ⟨known,(older _ _ found).2,connection⟩
    · obtain ⟨out,_,rfl⟩ := mem_map.mp new
      exact ⟨request,newest,rfl⟩
  · intro entry mem
    rcases mem_append.mp mem with old | new
    · exact valid.slim _ old
    · obtain ⟨out,sent,rfl⟩ := mem_map.mp new
      exact slim out (mem_of_mem_take sent)
  · intro ticket known found
    rcases Nat.lt_or_ge ticket s.subscriptions.length with inside | outside
    · simp only at found ⊢
      rw [List.getElem?_append_left inside] at found
      rw [others _ _ inside]
      exact valid.exact _ _ found
    · have same : ticket = s.subscriptions.length := by
        have bound := (List.getElem?_eq_some_iff.mp found).1
        simp only [length_append,List.length_singleton] at bound
        omega
      subst same
      rw [newest] at found
      cases found
      simp only [own]
      exact streamExact_prefix stream (List.take_prefix _ _)
  · simp only [SessionInner.subscribe]
    split <;> rfl
  · intro target offset ⟨known,found,connection,position⟩
    obtain ⟨inside,stays⟩ := older _ _ found
    refine ⟨⟨known,stays,connection,?_⟩,?_⟩
    · simp only [others _ _ inside]
      exact position
    · simp only [others _ _ inside]
  · intro other present
    simp only [SessionInner.subscribe] at present
    split at present
    · rename_i installed
      cases present
      refine .inr ⟨⟨request,newest,rfl,?_⟩,?_⟩
      · simp only [own,SessionInner.subscribe]
        rw [installed_bytes installed]
        exact reached.symm
      · intro running
        unfold OpenFor
        simp only [own,SessionInner.subscribe]
        intro out mem
        exact isOpen running out (mem_of_mem_take mem)
    · exact .inl present

theorem feedStep_invariant (s : FeedState) (action : FeedAction) {next : FeedState} (valid : FeedInvariant sessionId s)
    (step : feedStep sessionId s action = some next) : FeedInvariant sessionId next := by
  have kept := valid.reader
  cases action with
  | spawn pid now =>
    obtain ⟨ready,rfl⟩ := guard_parts step
    rw [ready.2.2] at kept
    exact {valid with small := Nat.zero_le _,reader := kept}
  | read chunk =>
    obtain ⟨ready,rfl⟩ := guard_parts step
    rw [ready.1] at kept
    exact {valid with small := ready.2,reader := kept}
  | endOfOutput =>
    obtain ⟨ready,rfl⟩ := guard_parts step
    rw [ready] at kept
    exact {valid with small := Nat.zero_le _,reader := kept}
  | append =>
    simp only [feedStep] at step
    split at step
    · rename_i reading
      cases step
      exact append_invariant valid reading
    · cases step
  | send =>
    simp only [feedStep] at step
    split at step
    · rename_i sending
      cases step
      exact send_invariant valid sending
    · cases step
  | drop =>
    simp only [feedStep] at step
    split at step
    · rename_i dropping
      cases step
      exact drop_invariant valid dropping
    · cases step
  | exit exitCode =>
    obtain ⟨ended,rfl⟩ := guard_parts step
    exact exit_invariant valid ended
  | sendExited =>
    simp only [feedStep] at step
    split at step
    · rename_i exiting
      cases step
      exact sendExited_invariant valid exiting
    · cases step
  | subscribe connection requestId fromOffset accepted =>
    simp only [feedStep] at step
    split at step
    · cases step
    · cases step
      exact subscribe_invariant valid
  | close connection =>
    cases step
    exact {valid with reader := readerGood_transport valid.reader rfl rfl (fun _ _ place => ⟨place,rfl⟩) (fun _ present => .inl present)}
  | dropSubscriptionsOf connection =>
    cases step
    obtain ⟨file,exit⟩ := dropSubscriptionsOf_rest s.inner
    exact inner_invariant valid (file ▸ valid.represents) exit fun _ present => (dropSubscriptionsOf_parts present).1
  | kill | commitWrite =>
    cases step
    exact inner_invariant valid valid.represents rfl fun _ present => present
  | checkpoint offset blob =>
    cases step
    exact inner_invariant valid (setCheckpoint_represents valid.represents) rfl fun _ present => present
  | resize rows cols =>
    cases step
    exact inner_invariant valid (pushResize_represents valid.represents) rfl fun _ present => present
  | remove =>
    cases step
    exact inner_invariant valid valid.represents rfl fun _ present => nomatch present

theorem feedStart_invariant (rows cols : UInt16) {pair : PtyPair} :
    FeedInvariant sessionId (.start (.opened (.new rows cols label) pair now)) := by
  refine ⟨new_represents _,?_,?_,?_,Nat.zero_le _,rfl,?_,?_⟩
  · intro entry mem
    cases mem
  · intro entry mem
    cases mem
  · intro ticket request found
    cases found
  · intro target present
    cases present
  · intro target present
    cases present

theorem slim_fits (short : sessionId.utf8ByteSize ≤ maxFrameIdBytes) (slim : Slim sessionId out) :
    record out.message out.data ≠ [] := by
  obtain ⟨message,data⟩ := out
  obtain ⟨small,named⟩ := slim
  have text := escaped_length sessionId
  have quoted := string_length sessionId
  have room : replayRecordBytes + 6 * maxFrameIdBytes + 200 ≤ maxIpcRecordBytes := by decide
  intro empty
  have large := record_empty_iff.mp empty
  simp only at small named large
  cases message with
  | ok id =>
    have idLength := u64_length id
    rw [ok_header_length] at large
    omega
  | data id named' offset =>
    simp only at named
    subst named
    have idLength := u64_length id
    have offsetLength := u64_length offset
    rw [data_header_length] at large
    omega
  | exited id named' exitCode finalOffset =>
    simp only at named
    subst named
    have idLength := u64_length id
    have offsetLength := u64_length finalOffset
    have codeLength := i32_length exitCode
    rw [exited_header_length] at large
    omega
  | _ => exact named

def received (delivered : List Queued) (ticket : Nat) : List Outgoing :=
  (sentOf delivered ticket).filter fun out => record out.message out.data ≠ []

def Reader.settled : Reader → Bool
  | .sending _ _ _ _ => false
  | .dropping _ _ => false
  | _ => true

theorem received_exact (short : sessionId.utf8ByteSize ≤ maxFrameIdBytes) (valid : FeedInvariant sessionId s)
    (requested : s.subscriptions[ticket]? = some request)
    (part : delivered <+: s.queued.filter fun entry => entry.connection = request.connection) :
    StreamExact s.history request.fromOffset (received delivered ticket) := by
  have mem : ∀ entry ∈ delivered, entry ∈ s.queued := by
    intro entry present
    exact List.mem_of_mem_filter (part.subset present)
  have whole : received delivered ticket = sentOf delivered ticket := by
    refine List.filter_eq_self.mpr ?_
    intro out present
    simp only [sentOf,mem_map] at present
    obtain ⟨entry,kept,rfl⟩ := present
    exact decide_eq_true (slim_fits short (valid.slim _ (mem _ (List.mem_of_mem_filter kept))))
  -- A ticket is served on one connection only, so the prefix of the connection
  -- is a prefix of the stream.
  have stream : sentOf delivered ticket <+: sentOf s.queued ticket := by
    have cut := (part.filter fun entry => decide (entry.ticket = ticket)).map Queued.out
    have same : (s.queued.filter fun entry => decide (entry.connection = request.connection)).filter
        (fun entry => decide (entry.ticket = ticket)) = s.queued.filter fun entry => decide (entry.ticket = ticket) := by
      rw [List.filter_filter]
      refine List.filter_congr ?_
      intro entry present
      by_cases own : entry.ticket = ticket
      · obtain ⟨_,found,connection⟩ := valid.addressed _ present
        rw [own,requested] at found
        cases found
        simp [own,connection]
      · simp [own]
    rw [same] at cut
    exact cut
  rw [whole]
  exact streamExact_prefix (valid.exact _ _ requested) stream

theorem settled_caught (valid : FeedInvariant sessionId s) (settled : s.reader.settled = true) : Caught s := by
  have good := valid.reader
  cases position : s.reader with
  | sending | dropping => simp [position,Reader.settled] at settled
  | exiting waiting exitCode finalOffset =>
    rw [position] at good
    exact good.2.1
  | done =>
    rw [position] at good
    exact good
  | _ =>
    rw [position] at good
    exact good.2.1

-- Whatever part of its connection a client has read, each request's records are an exact stream
-- from its offset; a request that is still the subscriber has been sent all of the output.
theorem subscription_stream_exact (rows cols : UInt16) (label : String) (pair : PtyPair) (now : Nat)
    (short : sessionId.utf8ByteSize ≤ maxFrameIdBytes)
    (ran : (feedMachine sessionId).run (.start (.opened (.new rows cols label) pair now)) actions = some s)
    (requested : s.subscriptions[ticket]? = some request)
    (part : delivered <+: s.queued.filter fun entry => entry.connection = request.connection) :
    StreamExact s.history request.fromOffset (received delivered ticket) ∧
    s.inner.file.end = s.history.length ∧
    (∀ target, s.inner.subscriber = some target → target.ticket = ticket → s.reader.settled = true →
      request.fromOffset + (bytesOf (sentOf s.queued ticket)).length = s.history.length) := by
  have valid : FeedInvariant sessionId s :=
    run_preserves feedStep_invariant (feedStart_invariant rows cols) ran
  refine ⟨received_exact short valid requested part,valid.represents.ends,?_⟩
  intro target present own settled
  obtain ⟨_,found,_,position⟩ := settled_caught valid settled target present
  rw [own] at found position
  rw [requested] at found
  cases found
  exact position.symm

-- A shell that prints two bytes and exits, watched from the start.
def shellPair : PtyPair := ⟨3,4,"/dev/pts/0",by decide⟩

def shellRun : List FeedAction :=
  [.spawn 100 0,.subscribe 1 7 0 9,.read [104,105],.append,.send,.endOfOutput,.exit 0,.sendExited]

theorem shell_ran : ∃ s, (feedMachine "shell").run (.start (.opened (.new 24 80 "") shellPair 0)) shellRun = some s ∧
      s.subscriptions = [⟨1,7,0⟩] ∧
      s.queued = [⟨1,0,⟨.ok 7,[]⟩⟩,⟨1,0,⟨.data 7 "shell" 0,[104,105]⟩⟩,⟨1,0,⟨.exited 7 "shell" 0 2,[]⟩⟩] :=
  ⟨_,rfl,rfl,rfl⟩

theorem subscription_stream_exact_shell :
    ∃ s, (feedMachine "shell").run (.start (.opened (.new 24 80 "") shellPair 0)) shellRun = some s ∧
      StreamExact s.history 0 (received (s.queued.filter fun entry => entry.connection = 1) 0) := by
  obtain ⟨s,ran,subscriptions,_⟩ := shell_ran
  have requested : s.subscriptions[0]? = some ⟨1,7,0⟩ := by rw [subscriptions]; rfl
  exact ⟨s,ran,(subscription_stream_exact 24 80 "" shellPair 0 (by decide) ran requested (List.prefix_refl _)).1⟩

end Coflux.Ptyd
