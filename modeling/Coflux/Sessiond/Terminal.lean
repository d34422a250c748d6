import Coflux.Foundation.Framing
import Coflux.Foundation.Json
import Coflux.Ptyd.Protocol
import Coflux.Sessiond.Scanner

namespace Coflux.Sessiond
open Text

def retransmitLimit : Nat := 512 * 1024
def checkpointFormatVersion : Nat := 1

structure Rendered where
  primary : Option Bytes
  snapshot : Bytes

-- Of libghostty-vt only these operations are used and nothing is assumed. Reads of the terminal
-- thread wait behind its queued feeds, so they are plain calls.
structure Vendor (V : Type) where
  spawn : UInt16 → UInt16 → Nat → V
  feed : V → Bytes → List Nat → V
  resize : V → UInt16 → UInt16 → V
  render : V → Nat → Rendered
  base64 : Bytes → Option Bytes

structure CommandStateInfo where
  (integrated busy : Bool)
  (commandSeq finishedSeq : Nat)
  exitCode : Option Int
deriving DecidableEq

structure CommandTracker where
  state : CommandStateInfo
  changed : Bool

def CommandTracker.new : CommandTracker := ⟨⟨false,false,0,0,none⟩,false⟩

def CommandStateInfo.marked (state : CommandStateInfo) : Mark → CommandStateInfo
  | .promptStart =>
    if state.busy then {state with integrated := true,busy := false,finishedSeq := state.commandSeq,exitCode := none}
    else {state with integrated := true}
  | .commandStart => {state with integrated := true,commandSeq := state.commandSeq + 1,busy := true}
  | .commandEnd code =>
    let seq := if state.busy then state.commandSeq else state.commandSeq + 1
    {state with integrated := true,commandSeq := seq,busy := false,finishedSeq := seq,exitCode := code}

def CommandTracker.apply (tracker : CommandTracker) (mark : Mark) : CommandTracker :=
  let state := tracker.state.marked mark
  ⟨state,tracker.changed || state ≠ tracker.state⟩

inductive TerminalQuery where
  | da1 (seq : Nat)
  | programStatus (terminator : OscTerminator)
deriving DecidableEq

structure Delta where
  (fromSeq toSeq : Nat)
  data : Bytes
deriving DecidableEq

-- The byte at ring offset o has sequence number o + 1.
structure TerminalState (V : Type) where
  vt : V
  scanner : OutputScanner
  title : String
  titleChanged : Bool
  command : CommandTracker
  (rows cols : UInt16)
  (historyLineLimit outputSeq : Nat)
  retransmit : List Delta
  retransmitBytes : Nat
  queries : List TerminalQuery
  programStatus : Option ProgramStatus
  programStatusChanged : Bool
  answeredQuerySeq : Nat

structure Checkpoint where
  outputSeq : Nat
  (rows cols : UInt16)
  title : String
  command : CommandStateInfo
  answeredQuerySeq : Nat
  normalBeforeAlt : Option Bytes
  snapshot : Bytes
deriving DecidableEq

def commandJson (command : CommandStateInfo) : Bytes :=
  Json.object ([("integrated",Json.bool command.integrated),("busy",Json.bool command.busy),
    ("commandSeq",Json.unsigned 64 command.commandSeq),("finishedSeq",Json.unsigned 64 command.finishedSeq)] ++
    (command.exitCode.map fun code => ("exitCode",Json.i32 code)).toList)

section
variable (checkpoint : Checkpoint)

def Checkpoint.header : Bytes :=
  Json.object [("v",Json.unsigned 32 checkpointFormatVersion), ("output_seq",Json.unsigned 64 checkpoint.outputSeq),
    ("rows",Json.unsigned 16 checkpoint.rows.toNat),
    ("cols",Json.unsigned 16 checkpoint.cols.toNat),
    ("title",Json.string checkpoint.title),
    ("command",commandJson checkpoint.command),
    ("alt",Json.bool checkpoint.normalBeforeAlt.isSome),
    ("normal_len",Json.unsigned 32 ((checkpoint.normalBeforeAlt.map List.length).getD 0)),
    ("answered_query_seq",Json.unsigned 64 checkpoint.answeredQuerySeq)]

def Checkpoint.encodedLen : Nat :=
  4 + checkpoint.header.length + (checkpoint.normalBeforeAlt.map List.length).getD 0 + checkpoint.snapshot.length

def Checkpoint.encode : Bytes :=
  Framing.u32be checkpoint.header.length ++ checkpoint.header ++ checkpoint.normalBeforeAlt.getD [] ++ checkpoint.snapshot

end

structure CheckpointHeader where
  (v outputSeq : Nat)
  (rows cols : UInt16)
  title : String
  command : CommandStateInfo
  alt : Bool
  (normalLen answeredQuerySeq : Nat)

def Checkpoint.decode (parse : Bytes → Option CheckpointHeader) : Bytes → Option Checkpoint
  | b0 :: b1 :: b2 :: b3 :: rest =>
    let headerLen := Framing.readU32be b0 b1 b2 b3
    if rest.length < headerLen then none
    else do
      let header ← parse (rest.take headerLen)
      let body := rest.drop headerLen
      if header.v ≠ checkpointFormatVersion ∨ header.rows = 0 ∨ header.cols = 0 then none
      else if !header.alt ∧ header.normalLen ≠ 0 then none
      else if body.length < header.normalLen then none
      else some ⟨header.outputSeq,header.rows,header.cols,header.title,header.command,header.answeredQuerySeq,
        if header.alt then some (body.take header.normalLen) else none,body.drop header.normalLen⟩
  | _ => none

def graphemeResets (base64 : Bytes → Option Bytes) (bytes : Bytes) : List Nat :=
  (bytes.zipIdx.foldl (fun acc entry =>
    let scanned := acc.1.feed base64 entry.1
    (scanned.1,if scanned.2 = some .graphemeClusterSet then acc.2 ++ [entry.2] else acc.2))
    (OutputScanner.withSecret "",([] : List Nat))).2

def blankVendor : Vendor Unit := ⟨fun _ _ _ => (),fun _ _ _ => (),fun _ _ _ => (),fun _ _ => ⟨none,[]⟩,fun _ => none⟩

namespace TerminalState
variable {V : Type} (vendor : Vendor V)

def new (rows cols : UInt16) (historyLineLimit : Nat) : TerminalState V :=
  ⟨vendor.spawn rows cols historyLineLimit,.withSecret "","",false,.new,rows,cols,historyLineLimit,0,[],0,[],none,false,0⟩

-- The snapshot already starts with the primary screen, so normalBeforeAlt is
-- not fed.
def restore (checkpoint : Checkpoint) (historyLineLimit : Nat) (markSecret : String) : TerminalState V :=
  let vt := vendor.feed (vendor.spawn checkpoint.rows checkpoint.cols historyLineLimit) checkpoint.snapshot
    (graphemeResets vendor.base64 checkpoint.snapshot)
  ⟨vt,.withSecret markSecret,checkpoint.title,false,⟨checkpoint.command,false⟩,checkpoint.rows,checkpoint.cols,
    historyLineLimit,checkpoint.outputSeq,[],0,[],none,false,checkpoint.answeredQuerySeq⟩

def withMarkSecret (terminal : TerminalState V) (secret : String) : TerminalState V :=
  {terminal with scanner := {terminal.scanner with secret := secret}}

def setProgramStatus (terminal : TerminalState V) (status : Option ProgramStatus) : TerminalState V :=
  if terminal.programStatus ≠ status then {terminal with programStatus := status,programStatusChanged := true}
  else terminal

structure Feeding (V : Type) where
  terminal : TerminalState V
  graphemeResets : List Nat
  pendingTitle : Option Bytes

def handle (acc : Feeding V) (seq index : Nat) : ScanEvent → Feeding V
  | .da1Query => {acc with terminal := {acc.terminal with queries := acc.terminal.queries ++ [.da1 seq]}}
  | .programStatusProbe terminator =>
    {acc with terminal := {acc.terminal with queries := acc.terminal.queries ++ [.programStatus terminator]}}
  | .graphemeClusterSet => {acc with graphemeResets := acc.graphemeResets ++ [index]}
  | .title raw => {acc with pendingTitle := some raw}
  | .mark mark =>
    let terminal := {acc.terminal with command := acc.terminal.command.apply mark}
    {acc with terminal := if mark = .promptStart then terminal.setProgramStatus none else terminal}
  | .programStatus report =>
    if report.id.isEmpty then {acc with terminal := acc.terminal.setProgramStatus report.status} else acc
  | .reset => {acc with terminal := acc.terminal.setProgramStatus none}

def feedByte (fromSeq : Nat) (acc : Feeding V) (entry : UInt8 × Nat) : Feeding V :=
  let scanned := acc.terminal.scanner.feed vendor.base64 entry.1
  let acc := {acc with terminal := {acc.terminal with scanner := scanned.1}}
  match scanned.2 with
  | none => acc
  | some event => handle acc (fromSeq + entry.2) entry.2 event

def applyTitle (terminal : TerminalState V) (pending : Option Bytes) : TerminalState V :=
  match pending with
  | none => terminal
  | some raw =>
    if clampTitle raw ≠ terminal.title then {terminal with title := clampTitle raw,titleChanged := true}
    else terminal

-- The source's loop never meets an empty queue while the counter is over the limit.
def dropOldest : List Delta → Nat → List Delta × Nat
  | [],bytes => ([],bytes)
  | delta :: rest,bytes =>
    if bytes > retransmitLimit then dropOldest rest (bytes - delta.data.length) else (delta :: rest,bytes)

def pushRetransmit (terminal : TerminalState V) (delta : Delta) : TerminalState V :=
  if delta.data.length > retransmitLimit then {terminal with retransmit := [],retransmitBytes := 0}
  else
    let kept := dropOldest (terminal.retransmit ++ [delta]) (terminal.retransmitBytes + delta.data.length)
    {terminal with retransmit := kept.1,retransmitBytes := kept.2}

def feed (terminal : TerminalState V) (bytes : Bytes) : TerminalState V × Option Delta :=
  if bytes.isEmpty then ({terminal with queries := []},none)
  else
    let fromSeq := terminal.outputSeq + 1
    let scanned := bytes.zipIdx.foldl (feedByte vendor fromSeq) ⟨{terminal with queries := []},[],none⟩
    let titled := applyTitle scanned.terminal scanned.pendingTitle
    let fed := {titled with
      vt := vendor.feed titled.vt bytes scanned.graphemeResets
      outputSeq := titled.outputSeq + bytes.length}
    let delta : Delta := ⟨fromSeq,fed.outputSeq,bytes⟩
    (fed.pushRetransmit delta,some delta)

def checkpointEligible (terminal : TerminalState V) : Bool := terminal.scanner.betweenSequences

def raiseAnsweredQuerySeq (terminal : TerminalState V) (seq : Nat) : TerminalState V :=
  {terminal with answeredQuerySeq := max terminal.answeredQuerySeq seq}

def setOutputSeq (terminal : TerminalState V) (outputSeq : Nat) : TerminalState V :=
  {terminal with outputSeq := outputSeq,retransmit := [],retransmitBytes := 0}

def resize (terminal : TerminalState V) (rows cols : UInt16) : TerminalState V :=
  if terminal.rows = rows ∧ terminal.cols = cols then terminal
  else {terminal with vt := vendor.resize terminal.vt rows cols,rows := rows,cols := cols}

def checkpointAt (terminal : TerminalState V) (lineLimit : Nat) : Checkpoint :=
  let rendered := vendor.render terminal.vt lineLimit
  ⟨terminal.outputSeq,terminal.rows,terminal.cols,terminal.title,terminal.command.state,terminal.answeredQuerySeq,
    rendered.primary,rendered.snapshot⟩

def checkpointFrom (terminal : TerminalState V) (maxBytes lineLimit : Nat) : Option Checkpoint :=
  let checkpoint := terminal.checkpointAt vendor lineLimit
  if checkpoint.encodedLen ≤ maxBytes then some checkpoint
  else if lineLimit = 0 then none
  else terminal.checkpointFrom maxBytes (lineLimit / 2)
termination_by lineLimit

def checkpoint (terminal : TerminalState V) (maxBytes : Nat) : Option Checkpoint :=
  terminal.checkpointFrom vendor maxBytes terminal.historyLineLimit

def ringFloorSeq (terminal : TerminalState V) : Nat := terminal.outputSeq - Ptyd.ptydRingCapacity + 1

def snapshot (terminal : TerminalState V) : Bytes := (vendor.render terminal.vt terminal.historyLineLimit).snapshot

def earliestRetransmitSeq (terminal : TerminalState V) : Nat :=
  match terminal.retransmit with
  | delta :: _ => delta.fromSeq
  | [] => terminal.outputSeq + 1

def collect : Nat → List Delta → Option (List Delta × Nat)
  | next,[] => some ([],next)
  | next,delta :: rest =>
    if delta.fromSeq > next ∨ delta.toSeq < next then none
    else do
      let (more,last) ← collect (delta.toSeq + 1) rest
      return (⟨next,delta.toSeq,delta.data.drop (next - delta.fromSeq)⟩ :: more,last)

def deltasAfter (terminal : TerminalState V) (lastSeq : Nat) : Option (List Delta) :=
  if lastSeq ≥ terminal.outputSeq then if lastSeq = terminal.outputSeq then some [] else none
  else
    match terminal.retransmit.dropWhile fun delta => ¬(delta.fromSeq ≤ lastSeq + 1 ∧ lastSeq + 1 ≤ delta.toSeq) with
    | [] => none
    | covering => do
        let (output,last) ← collect (lastSeq + 1) covering
        if last = terminal.outputSeq + 1 then some output else none

end TerminalState

variable {V : Type} {terminal : TerminalState V}

structure Window (V : Type) where
  vt : V
  (rows cols : UInt16)
  (historyLineLimit outputSeq : Nat)
  retransmit : List Delta
  (retransmitBytes answeredQuerySeq : Nat)

section
variable (terminal : TerminalState V)

def TerminalState.window : Window V :=
  ⟨terminal.vt,terminal.rows,terminal.cols,terminal.historyLineLimit,terminal.outputSeq,terminal.retransmit,
    terminal.retransmitBytes,terminal.answeredQuerySeq⟩

theorem setProgramStatus_window :
    (terminal.setProgramStatus status).window = terminal.window ∧
      (terminal.setProgramStatus status).scanner = terminal.scanner := by
  unfold TerminalState.setProgramStatus
  split
  · exact ⟨rfl,rfl⟩
  · exact ⟨rfl,rfl⟩

theorem handle_window : (TerminalState.handle acc seq index event).terminal.window = acc.terminal.window ∧
      (TerminalState.handle acc seq index event).terminal.scanner = acc.terminal.scanner := by
  cases event with
  | mark mark =>
    simp only [TerminalState.handle]
    split
    · exact setProgramStatus_window _
    · exact ⟨rfl,rfl⟩
  | programStatus report =>
    simp only [TerminalState.handle]
    split
    · exact setProgramStatus_window _
    · exact ⟨rfl,rfl⟩
  | reset => exact setProgramStatus_window _
  | da1Query | graphemeClusterSet | title | programStatusProbe => exact ⟨rfl,rfl⟩

theorem feedByte_window (vendor : Vendor V) (fromSeq : Nat) (acc : TerminalState.Feeding V) (entry : UInt8 × Nat) :
    (TerminalState.feedByte vendor fromSeq acc entry).terminal.window = acc.terminal.window ∧
      (TerminalState.feedByte vendor fromSeq acc entry).terminal.scanner =
        (acc.terminal.scanner.feed vendor.base64 entry.1).1 := by
  simp only [TerminalState.feedByte]
  split
  · exact ⟨rfl,rfl⟩
  · exact handle_window

theorem foldl_feedByte (start : Nat) (acc : TerminalState.Feeding V) :
    ((bytes.zipIdx start).foldl (TerminalState.feedByte vendor fromSeq) acc).terminal.window = acc.terminal.window ∧
      ((bytes.zipIdx start).foldl (TerminalState.feedByte vendor fromSeq) acc).terminal.scanner =
        scanAll vendor.base64 acc.terminal.scanner bytes := by
  induction bytes generalizing acc start with
  | nil => exact ⟨rfl,rfl⟩
  | cons byte rest ih =>
    obtain ⟨one,scannerOne⟩ := feedByte_window _ _ acc (byte,start)
    obtain ⟨more,scannerMore⟩ := ih (start + 1) (TerminalState.feedByte vendor fromSeq acc (byte,start))
    refine ⟨more.trans one,scannerMore.trans ?_⟩
    rw [scannerOne]
    rfl

theorem applyTitle_window :
    (terminal.applyTitle pending).window = terminal.window ∧ (terminal.applyTitle pending).scanner = terminal.scanner := by
  unfold TerminalState.applyTitle
  split
  · exact ⟨rfl,rfl⟩
  · split
    · exact ⟨rfl,rfl⟩
    · exact ⟨rfl,rfl⟩

theorem dropOldest_subset (bytes : Nat) :
    ∀ delta ∈ (TerminalState.dropOldest queue bytes).1, delta ∈ queue := by
  induction queue generalizing bytes with
  | nil => intro delta mem; exact mem
  | cons head rest ih =>
    intro delta mem
    simp only [TerminalState.dropOldest] at mem
    split at mem
    · exact List.mem_cons_of_mem _ (ih _ delta mem)
    · exact mem

theorem pushRetransmit_subset :
    ∀ kept ∈ (terminal.pushRetransmit delta).retransmit, kept ∈ terminal.retransmit ∨ kept = delta := by
  intro kept mem
  simp only [TerminalState.pushRetransmit] at mem
  split at mem
  · cases mem
  · simpa using dropOldest_subset _ kept mem

theorem pushRetransmit_rest : (terminal.pushRetransmit delta).scanner = terminal.scanner ∧
    (terminal.pushRetransmit delta).window = {terminal.window with
      retransmit := (terminal.pushRetransmit delta).retransmit
      retransmitBytes := (terminal.pushRetransmit delta).retransmitBytes} := by
  unfold TerminalState.pushRetransmit
  split
  · exact ⟨rfl,rfl⟩
  · exact ⟨rfl,rfl⟩

end

theorem feed_pushed (nonempty : bytes ≠ []) :
    let delta : Delta := ⟨terminal.outputSeq + 1,terminal.outputSeq + bytes.length,bytes⟩
    ∃ (fed : TerminalState V) (resets : List Nat), terminal.feed vendor bytes = (fed.pushRetransmit delta,some delta) ∧
      fed.scanner = scanAll vendor.base64 terminal.scanner bytes ∧
      fed.window = {terminal.window with
        vt := vendor.feed terminal.vt bytes resets
        outputSeq := terminal.outputSeq + bytes.length} := by
  have filled : ¬bytes.isEmpty := by simpa using nonempty
  obtain ⟨scanned,scannerScanned⟩ := foldl_feedByte 0 ⟨{terminal with queries := []},[],none⟩
  simp only [TerminalState.feed,if_neg filled]
  generalize List.foldl (TerminalState.feedByte vendor (terminal.outputSeq + 1)) _ bytes.zipIdx = acc at *
  obtain ⟨titled,scannerTitled⟩ := applyTitle_window _
  have window := titled.trans scanned
  have seq : (acc.terminal.applyTitle acc.pendingTitle).outputSeq = terminal.outputSeq := congrArg Window.outputSeq window
  rw [seq]
  refine ⟨_,acc.graphemeResets,rfl,scannerTitled.trans scannerScanned,?_⟩
  simp only [TerminalState.window,Window.mk.injEq] at window ⊢
  simp [window]

theorem feed_spec (nonempty : bytes ≠ []) :
    let delta : Delta := ⟨terminal.outputSeq + 1,terminal.outputSeq + bytes.length,bytes⟩
    (terminal.feed vendor bytes).2 = some delta ∧
    (terminal.feed vendor bytes).1.outputSeq = terminal.outputSeq + bytes.length ∧
    (terminal.feed vendor bytes).1.scanner = scanAll vendor.base64 terminal.scanner bytes ∧
    ∀ kept ∈ (terminal.feed vendor bytes).1.retransmit, kept ∈ terminal.retransmit ∨ kept = delta := by
  intro delta
  obtain ⟨fed,_,equal,scanner,window⟩ := feed_pushed nonempty
  obtain ⟨kept,rest⟩ := pushRetransmit_rest _
  rw [equal]
  refine ⟨rfl,?_,kept.trans scanner,?_⟩
  · exact (congrArg Window.outputSeq rest).trans (congrArg Window.outputSeq window)
  · intro other mem
    have queue : fed.retransmit = terminal.retransmit := congrArg Window.retransmit window
    rw [← queue]
    exact pushRetransmit_subset _ _ mem

theorem feed_screen (nonempty : bytes ≠ []) :
    (∃ resets, (terminal.feed vendor bytes).1.vt = vendor.feed terminal.vt bytes resets) ∧
    (terminal.feed vendor bytes).1.rows = terminal.rows ∧ (terminal.feed vendor bytes).1.cols = terminal.cols := by
  obtain ⟨_,resets,equal,_,window⟩ := feed_pushed nonempty
  obtain ⟨_,rest⟩ := pushRetransmit_rest _
  rw [equal]
  refine ⟨⟨resets,?_⟩,?_,?_⟩
  · exact (congrArg Window.vt rest).trans (congrArg Window.vt window)
  · exact (congrArg Window.rows rest).trans (congrArg Window.rows window)
  · exact (congrArg Window.cols rest).trans (congrArg Window.cols window)

end Coflux.Sessiond
