import Coflux.Foundation.Text

namespace Coflux.Sessiond
open Text

def xtermCsiParamSlots : Nat := 32
def maxTitleBytes : Nat := 256
def oscCaptureBytes : Nat := 4096
def oscParamLimit : Nat := 16

inductive OscTerminator where
  | bel
  | st
deriving DecidableEq

inductive ProgramState where
  | idle
  | working
  | done
  | blocked
  | error
deriving DecidableEq

inductive BlockedKind where
  | permission
  | question
  | auth
deriving DecidableEq

structure ProgramStatus where
  state : ProgramState
  kind : Option BlockedKind
  (app message : String)
deriving DecidableEq

-- status is none for state=clear; an empty id is the root record.
structure ProgramReport where
  id : Bytes
  status : Option ProgramStatus
deriving DecidableEq

inductive Mark where
  | promptStart
  | commandStart
  | commandEnd (exitCode : Option Int)
deriving DecidableEq

inductive ScanEvent where
  | da1Query
  | graphemeClusterSet
  | title (raw : Bytes)
  | mark (mark : Mark)
  | programStatus (report : ProgramReport)
  | programStatusProbe (terminator : OscTerminator)
  | reset
deriving DecidableEq

inductive CsiPhase where
  | entry
  | parameter
  | intermediate
  | ignore
deriving DecidableEq

structure CsiScan where
  phase : CsiPhase
  (da1Shape da1Nonzero : Bool)
  da1Slots : Nat
  question : Bool
  value : Nat
  (hasDigit names2027 : Bool)
deriving DecidableEq

def CsiScan.new : CsiScan := ⟨.entry,true,false,0,false,0,false,false⟩

section
variable (scan : CsiScan)

def CsiScan.endParameter : CsiScan :=
  {scan with names2027 := scan.names2027 || (scan.hasDigit && scan.value = 2027),value := 0,hasDigit := false}

def u16Max : Nat := 2 ^ 16 - 1

def inside (low high byte : UInt8) : Bool := low ≤ byte && byte ≤ high

section
variable (byte : UInt8)

def CsiScan.digit : CsiScan :=
  let nonzero := scan.da1Nonzero || (scan.da1Shape && scan.da1Slots < xtermCsiParamSlots && byte ≠ 0x30)
  let value := if scan.question then min (min (scan.value * 10) u16Max + (byte.toNat - 48)) u16Max else scan.value
  let phase := match scan.phase with
    | .entry | .parameter => CsiPhase.parameter
    | .intermediate | .ignore => CsiPhase.ignore
  {scan with da1Nonzero := nonzero,value := value,hasDigit := scan.hasDigit || scan.question,phase := phase}

def CsiScan.separator : CsiScan :=
  let slots := if scan.da1Shape && scan.da1Slots < xtermCsiParamSlots then scan.da1Slots + 1 else scan.da1Slots
  let ended := if scan.question then scan.endParameter else scan
  let phase := match scan.phase with
    | .entry => if byte = 0x3a then CsiPhase.ignore else CsiPhase.parameter
    | .parameter => CsiPhase.parameter
    | .intermediate | .ignore => CsiPhase.ignore
  {ended with da1Slots := slots,phase := phase}

def CsiScan.marker : CsiScan :=
  match scan.phase with
  | .entry => {scan with da1Shape := false,question := byte = 0x3f,phase := .parameter}
  | _ => {scan with da1Shape := false,phase := .ignore}

def CsiScan.final : Option ScanEvent :=
  let ended := if scan.question then scan.endParameter else scan
  if byte = 0x63 && ended.da1Shape && !ended.da1Nonzero then some .da1Query
  else if byte = 0x68 && ended.question && ended.names2027 then some .graphemeClusterSet
  else none

-- C0 controls, DEL and bytes from 0x80 leave the scan as it is.
def CsiScan.feed : CsiScan ⊕ Option ScanEvent :=
  if inside 0x30 0x39 byte then .inl (scan.digit byte)
  else if byte = 0x3b || byte = 0x3a then .inl (scan.separator byte)
  else if inside 0x3c 0x3f byte then .inl (scan.marker byte)
  else if inside 0x20 0x2f byte then
    .inl {scan with da1Shape := false,phase := if scan.phase = .ignore then .ignore else .intermediate}
  else if inside 0x40 0x7e byte then .inr (scan.final byte)
  else .inl scan

end

end

inductive OscKind where
  | undecided
  | wanted
  | ignored
deriving DecidableEq

structure OscCapture where
  payload : Bytes
  kind : OscKind
  truncated : Bool
deriving DecidableEq

def OscCapture.empty : OscCapture := ⟨[],.undecided,false⟩

def OscCapture.keep (capture : OscCapture) (byte : UInt8) : OscCapture :=
  if capture.payload.length < oscCaptureBytes then {capture with payload := capture.payload ++ [byte]}
  else {capture with truncated := true}

def wantedCommands : List Bytes := [ascii "0",ascii "2",ascii "133",ascii "7501"]

def OscCapture.put (capture : OscCapture) (byte : UInt8) : OscCapture :=
  match capture.kind with
  | .ignored => capture
  | .undecided =>
    if byte = 0x3b then
      if capture.payload ∈ wantedCommands then {capture with kind := .wanted}.keep byte
      else {capture with kind := .ignored,payload := []}
    else if capture.payload.length ≥ 4 then {capture with kind := .ignored,payload := []}
    else capture.keep byte
  | .wanted => capture.keep byte

inductive ScanState where
  | ground
  | escape
  | escapeIntermediate
  | csi (scan : CsiScan)
  | osc
  | dcsEntry
  | dcsParam
  | dcsIntermediate
  | dcsBody
  | sosPmApc
deriving DecidableEq

structure OutputScanner where
  state : ScanState
  utf8Pending : Nat
  osc : OscCapture
  secret : String
deriving DecidableEq

def isControl (c : Char) : Bool := c.toNat < 0x20 || (0x7f ≤ c.toNat && c.toNat ≤ 0x9f)

def clampChars : Nat → List Char → List Char
  | _,[] => []
  | limit,c :: rest => if c.utf8Size ≤ limit then c :: clampChars (limit - c.utf8Size) rest else []

def clampTitle (raw : Bytes) : String :=
  String.ofList (clampChars maxTitleBytes ((decodeLossy raw).filter fun c => !isControl c))

structure ReportFields where
  state : Option Bytes
  (id kind app msg : Bytes)

-- Unknown keys are ignored and a repeated key's last value wins.
def ReportFields.pair (fields : ReportFields) (text : Bytes) : ReportFields :=
  match text.span fun byte => byte ≠ 0x3d with
  | (_,[]) => fields
  | (key,_ :: value) =>
    if key = ascii "state" then {fields with state := some value}
    else if key = ascii "id" then {fields with id := value}
    else if key = ascii "kind" then {fields with kind := value}
    else if key = ascii "app" then {fields with app := value}
    else if key = ascii "msg" then {fields with msg := value}
    else fields

def dropLastPair (body : Bytes) : Option Bytes :=
  if 0x3a ∈ body then some ((body.reverse.dropWhile fun byte => byte ≠ 0x3a).drop 1).reverse else none

def reportState (text : Bytes) : Option (Option ProgramState) :=
  if text = ascii "idle" then some (some .idle)
  else if text = ascii "working" then some (some .working)
  else if text = ascii "done" then some (some .done)
  else if text = ascii "blocked" then some (some .blocked)
  else if text = ascii "error" then some (some .error)
  else if text = ascii "clear" then some none
  else none

def reportKind (state : ProgramState) (text : Bytes) : Option BlockedKind :=
  if state ≠ .blocked then none
  else if text = ascii "permission" then some .permission
  else if text = ascii "question" then some .question
  else if text = ascii "auth" then some .auth
  else none

def decodeProgramMessage (base64 : Bytes → Option Bytes) (raw : Bytes) : String :=
  match base64 raw with
  | some decoded => clampTitle decoded
  | none => ""

def parseProgramReport (base64 : Bytes → Option Bytes) (body : Bytes) (truncated : Bool) : Option ProgramReport := do
  let body ← if truncated then dropLastPair body else some body
  let fields := (body.splitOn 0x3a).foldl ReportFields.pair ⟨none,[],[],[],[]⟩
  let state ← reportState (← fields.state)
  return ⟨fields.id,state.map fun state =>
    ⟨state,reportKind state fields.kind,String.ofList (decodeLossy fields.app),decodeProgramMessage base64 fields.msg⟩⟩

def stripLeading (lead text : Bytes) : Option Bytes :=
  if lead.isPrefixOf text then some (text.drop lead.length) else none

def parseMark (params : List Bytes) (secret : String) : Option Mark :=
  if secret.isEmpty ∨ params.head? ≠ some (ascii "133") then none
  else if (params.drop 2).any (fun param => stripLeading (ascii "coflux=") param = some (utf8 secret)) then
    match params[1]? with
    | none => none
    | some name =>
      if name = ascii "A" then some .promptStart
      else if name = ascii "C" then some .commandStart
      else if name = ascii "D" then some (.commandEnd (params[2]?.bind parseI32))
      else none
  else none

namespace OutputScanner

def withSecret (secret : String) : OutputScanner := ⟨.ground,0,.empty,secret⟩

section
variable (scanner : OutputScanner)

-- A checkpoint may only fall here.
def betweenSequences : Bool :=
  scanner.state = .ground && scanner.utf8Pending = 0

def honoursC1 : Bool :=
  !(scanner.state = .ground || scanner.state = .osc || scanner.state = .dcsBody)

def enter (next : ScanState) : OutputScanner :=
  if next = .osc then {scanner with state := next,osc := .empty} else {scanner with state := next}

end

section
variable (base64 : Bytes → Option Bytes)

section
variable (scanner : OutputScanner)

def dispatchOsc (terminator : OscTerminator) : Option ScanEvent :=
  let capture := scanner.osc
  if capture.kind ≠ .wanted then none
  else match stripLeading (ascii "7501;") capture.payload with
    | some body =>
      if body = ascii "?" ∧ !capture.truncated then some (.programStatusProbe terminator)
      else (parseProgramReport base64 body capture.truncated).map .programStatus
    | none =>
      match splitN oscParamLimit 0x3b capture.payload with
      | [first,title] =>
        if first = ascii "0" ∨ first = ascii "2" then some (.title title)
        else if first = ascii "133" ∧ !capture.truncated then
          (parseMark [first,title] scanner.secret).map .mark
        else none
      | params =>
        if params.head? = some (ascii "133") ∧ !capture.truncated then
          (parseMark params scanner.secret).map .mark
        else none

def utf8Owed (pending : Nat) (byte : UInt8) : Nat :=
  if inside 0x80 0xbf byte then pending - 1
  else if inside 0xc2 0xdf byte then 1
  else if inside 0xe0 0xef byte then 2
  else if inside 0xf0 0xf4 byte then 3
  else 0

section
variable (byte : UInt8)

def feedGround : OutputScanner :=
  if byte = 0x1b then {scanner with state := .escape,utf8Pending := 0}
  else {scanner with utf8Pending := utf8Owed scanner.utf8Pending byte}

def anywhere : Option ScanState :=
  if byte = 0x18 || byte = 0x1a then some .ground
  else if byte = 0x1b then some .escape
  else if inside 0x80 0x9f byte && scanner.honoursC1 then
    some (if byte = 0x90 then .dcsEntry
      else if byte = 0x98 || byte = 0x9e || byte = 0x9f then .sosPmApc
      else if byte = 0x9b then .csi .new
      else if byte = 0x9d then .osc
      else .ground)
  else none

def escapeNext : Option ScanState :=
  if inside 0x20 0x2f byte then some .escapeIntermediate
  else if byte = 0x50 then some .dcsEntry
  else if byte = 0x58 || byte = 0x5e || byte = 0x5f then some .sosPmApc
  else if byte = 0x5b then some (.csi .new)
  else if byte = 0x5d then some .osc
  else if inside 0x30 0x7e byte then some .ground
  else none

def dcsEntryNext : Option ScanState :=
  if inside 0x20 0x2f byte then some .dcsIntermediate
  else if byte = 0x3a || inside 0x40 0x7e byte then some .dcsBody
  else if inside 0x30 0x39 byte || byte = 0x3b || inside 0x3c 0x3f byte then some .dcsParam
  else none

def dcsParamNext : Option ScanState :=
  if inside 0x20 0x2f byte then some .dcsIntermediate
  else if byte = 0x3a || inside 0x3c 0x3f byte || inside 0x40 0x7e byte then some .dcsBody
  else none

def advance (next : Option ScanState) : OutputScanner :=
  match next with
  | some state => scanner.enter state
  | none => scanner

def feedState :
    OutputScanner × Option ScanEvent :=
  match scanner.state with
  | .ground => (scanner,none)
  | .escape =>
    if byte = 0x63 then ({scanner with state := .ground},some .reset)
    else (scanner.advance (escapeNext byte),none)
  | .escapeIntermediate => (scanner.advance (if inside 0x30 0x7e byte then some .ground else none),none)
  | .csi scan =>
    match scan.feed byte with
    | .inl more => ({scanner with state := .csi more},none)
    | .inr event => ({scanner with state := .ground},event)
  | .osc =>
    if byte = 0x07 then ({scanner with state := .ground,osc := .empty},scanner.dispatchOsc base64 .bel)
    else if 0x20 ≤ byte then ({scanner with osc := scanner.osc.put byte},none)
    else (scanner,none)
  | .dcsEntry => (scanner.advance (dcsEntryNext byte),none)
  | .dcsParam => (scanner.advance (dcsParamNext byte),none)
  | .dcsIntermediate => (scanner.advance (if inside 0x30 0x7e byte then some .dcsBody else none),none)
  | .dcsBody => (scanner,none)
  | .sosPmApc => (scanner,none)

def feed : OutputScanner × Option ScanEvent :=
  if scanner.state = .ground then (scanner.feedGround byte,none)
  else match scanner.anywhere byte with
    | some next =>
      -- ESC ends an OSC as ST does; the other bytes abort it.
      if scanner.state = .osc ∧ byte = 0x1b then
        ({scanner with osc := .empty}.enter next,scanner.dispatchOsc base64 .st)
      else (scanner.enter next,none)
    | none => scanner.feedState base64 byte

end

end

end

end OutputScanner

def scanAll (base64 : Bytes → Option Bytes) (scanner : OutputScanner) (bytes : Bytes) : OutputScanner :=
  bytes.foldl (fun scanner byte => (scanner.feed base64 byte).1) scanner

end Coflux.Sessiond
